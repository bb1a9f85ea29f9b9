import Mathlib.Data.List.TakeWhile
import PageLoom.Text.Basic

set_option autoImplicit false

/-! # Runs and trimming

A text is cut in one way only into a run of characters of a class and a rest that begins outside of
the class (`run_injective`). Trimming takes the two outer runs of blanks from a text and nothing
else; the letters and marks of ASCII are no blanks. -/

namespace PageLoom
namespace Text

/-! ## Runs -/

theorem drop_length_takeWhile (p : Char → Bool) (t : Text) :
    t.drop (t.takeWhile p).length = t.dropWhile p := by
  induction t with
  | nil => rfl
  | cons c rest ih => cases hc : p c <;> simp [hc, ih]

/-- A run of a class ends where the first character outside of the class stands. -/
theorem takeWhile_run {p : Char → Bool} {run : Text} {c : Char} (hrun : ∀ d ∈ run, p d)
    (hc : p c = false) (rest : Text) : (run ++ c :: rest).takeWhile p = run := by
  rw [List.takeWhile_append_of_pos hrun, List.takeWhile_cons_of_neg (by simp [hc]), List.append_nil]

theorem dropWhile_run {p : Char → Bool} {run : Text} {c : Char} (hrun : ∀ d ∈ run, p d)
    (hc : p c = false) (rest : Text) : (run ++ c :: rest).dropWhile p = c :: rest := by
  rw [List.dropWhile_append_of_pos hrun, List.dropWhile_cons_of_neg (by simp [hc])]

/-- There is one way to cut a text at the end of its first run. -/
theorem run_injective {p : Char → Bool} {run run' rest rest' : Text} {c c' : Char}
    (hrun : ∀ d ∈ run, p d) (hrun' : ∀ d ∈ run', p d) (hc : p c = false) (hc' : p c' = false)
    (h : run ++ c :: rest = run' ++ c' :: rest') : run = run' ∧ c = c' ∧ rest = rest' := by
  have htake := congrArg (List.takeWhile p) h
  have hdrop := congrArg (List.dropWhile p) h
  rw [takeWhile_run hrun hc, takeWhile_run hrun' hc'] at htake
  rw [dropWhile_run hrun hc, dropWhile_run hrun' hc'] at hdrop
  exact ⟨htake, List.cons.inj hdrop⟩

/-! ## Characters of ASCII -/

theorem isAlpha_iff (c : Char) :
    c.isAlpha ↔ (65 ≤ c.toNat ∧ c.toNat ≤ 90) ∨ (97 ≤ c.toNat ∧ c.toNat ≤ 122) := by
  have hshape : c.isAlpha =
      (decide (c.val ≥ 'A'.val ∧ c.val ≤ 'Z'.val) || (c.val ≥ 'a'.val && c.val ≤ 'z'.val)) := rfl
  simp [hshape, UInt32.le_iff_toNat_le]

/-- The visible characters of ASCII are no blanks. -/
theorem not_isBlank_of_bounds {c : Char} (hlow : 33 ≤ c.toNat) (hhigh : c.toNat ≤ 126) :
    isBlank c = false := by
  simp [isBlank, inRanges, blankRanges]
  omega

/-! ## Trimming -/

theorem all_takeWhile (p : Char → Bool) (t : Text) : ∀ c ∈ t.takeWhile p, p c :=
  fun _ hc => List.mem_takeWhile_imp hc

theorem dropEndWhile_append_dropped (p : Char → Bool) (t : Text) :
    dropEndWhile p t ++ (t.reverse.takeWhile p).reverse = t := by
  rw [dropEndWhile, ← List.reverse_append, List.takeWhile_append_dropWhile, List.reverse_reverse]

/-- What trimming leaves does not end with a character of the class. -/
theorem getLast?_dropEndWhile (p : Char → Bool) (t : Text) :
    ∀ c ∈ (dropEndWhile p t).getLast?, p c = false := by
  intro c hc
  rw [dropEndWhile, List.getLast?_reverse] at hc
  have hfirst := List.head?_dropWhile_not p t.reverse
  rw [Option.mem_def.1 hc] at hfirst
  simpa using hfirst

theorem trimEnd_append_dropped (t : Text) :
    trimEnd t ++ (t.reverse.takeWhile isBlank).reverse = t :=
  dropEndWhile_append_dropped isBlank t

/-- A text is what trimming leaves of it, between blanks. -/
theorem exists_trim_frame (t : Text) :
    ∃ before after, (∀ c ∈ before, isBlank c) ∧ (∀ c ∈ after, isBlank c) ∧
      t = before ++ trim t ++ after := by
  refine ⟨t.takeWhile isBlank, ((trimStart t).reverse.takeWhile isBlank).reverse,
    all_takeWhile isBlank t, ?_, ?_⟩
  · intro c hc
    exact all_takeWhile isBlank _ c (List.mem_reverse.1 hc)
  · rw [List.append_assoc, trim, trimEnd_append_dropped, trimStart_append_dropped]

/-- Trimming takes the blanks around a text that neither begins nor ends with one. -/
theorem trim_framed {before t after : Text} {c d : Char} (hbefore : ∀ c ∈ before, isBlank c)
    (hafter : ∀ c ∈ after, isBlank c) (hhead : t.head? = some c) (hc : isBlank c = false)
    (hlast : t.getLast? = some d) (hd : isBlank d = false) : trim (before ++ t ++ after) = t := by
  have hstart : trimStart (before ++ t ++ after) = t ++ after := by
    obtain ⟨rest, rfl⟩ := List.head?_eq_some_iff.1 hhead
    rw [trimStart, List.append_assoc]
    exact dropWhile_run hbefore hc (rest ++ after)
  have hend : (t ++ after).reverse.dropWhile isBlank = t.reverse := by
    obtain ⟨front, rfl⟩ := List.getLast?_eq_some_iff.1 hlast
    rw [List.reverse_append, List.reverse_append]
    exact dropWhile_run (fun c hc => hafter c (List.mem_reverse.1 hc)) hd front.reverse
  rw [trim, hstart, trimEnd, dropEndWhile, hend, List.reverse_reverse]

end Text
end PageLoom
