import PageLoom.Proofs.Marker.Token

set_option autoImplicit false

/-! # Balanced markers

Doubled braces that match each other may stand inside a marker. The scan passes over such a text
at any depth (`closeIn_append_of_nested`), so that it stops at the doubled brace behind a balanced
text and nowhere before, whatever follows (`close?_printed`). -/

namespace PageLoom
namespace Marker

/-! ## What the scan finds -/

/-- What closes the tokens is one of them. -/
theorem exists_closing_of_closeIn {depth p : Nat} {ks : List Token}
    (h : closeIn depth ks = some p) :
    ∃ before after, ks = before ++ .closing :: after ∧ (before.flatMap Token.text).length = p := by
  fun_induction closeIn depth ks generalizing p with
  | case1 => simp at h
  | case2 rest => exact ⟨[], rest, rfl, by simpa using h⟩
  | case3 depth rest ih =>
      obtain ⟨q, hq, rfl⟩ := Option.map_eq_some_iff.1 h
      obtain ⟨before, after, rfl, hlen⟩ := ih hq
      exact ⟨.closing :: before, after, rfl, by simp [← hlen]⟩
  | case4 depth rest ih =>
      obtain ⟨q, hq, rfl⟩ := Option.map_eq_some_iff.1 h
      obtain ⟨before, after, rfl, hlen⟩ := ih hq
      exact ⟨.opening :: before, after, rfl, by simp [← hlen]⟩
  | case5 depth c rest ih =>
      obtain ⟨q, hq, rfl⟩ := Option.map_eq_some_iff.1 h
      obtain ⟨before, after, rfl, hlen⟩ := ih hq
      exact ⟨.single c :: before, after, rfl, by simp [← hlen]⟩
  | case6 depth t closed rest ih =>
      obtain ⟨q, hq, rfl⟩ := Option.map_eq_some_iff.1 h
      obtain ⟨before, after, rfl, hlen⟩ := ih hq
      exact ⟨.literal t closed :: before, after, rfl, by simp [← hlen]; omega⟩

/-- A doubled closing brace stands where the scan stops. -/
theorem closing_prefix_of_scan {depth p : Nat} {t : Text} (h : scan none depth t = some p) :
    closing <+: t.drop p := by
  rw [scan_eq_closeIn] at h
  obtain ⟨before, after, htokens, rfl⟩ := exists_closing_of_closeIn h
  have ht : before.flatMap Token.text ++ (closing ++ after.flatMap Token.text) = t := by
    rw [← flatMap_text_tokens t, htokens]
    simp [closing]
  rw [← ht, List.drop_left]
  exact List.prefix_append _ _

theorem closing_prefix_of_close? {t : Text} {start p : Nat} (h : close? t start = some p) :
    start ≤ p ∧ closing <+: t.drop p := by
  obtain ⟨q, hq, rfl⟩ := Option.map_eq_some_iff.1 h
  refine ⟨Nat.le_add_left start q, ?_⟩
  rw [Nat.add_comm, ← List.drop_drop]
  exact closing_prefix_of_scan hq

theorem add_two_le_length_of_close? {t : Text} {start p : Nat} (h : close? t start = some p) :
    p + 2 ≤ t.length := by
  have hlen := (closing_prefix_of_close? h).2.length_le
  simp only [closing, List.length_cons, List.length_nil, List.length_drop] at hlen
  omega

/-! ## Balanced texts -/

/-- Tokens in which every closing brace belongs to an earlier opening one and every opening brace
    to a later closing one. -/
inductive Nested : List Token → Prop where
  | nil : Nested []
  | single (c : Char) {ks : List Token} : Nested ks → Nested (.single c :: ks)
  | literal (t : Text) (closed : Bool) {ks : List Token} :
      Nested ks → Nested (.literal t closed :: ks)
  | marker {inner ks : List Token} :
      Nested inner → Nested ks → Nested (.opening :: (inner ++ .closing :: ks))

/-- A text that may stand inside a marker: its literals are closed, its doubled braces match, and
    it does not end in a brace that the end of the marker would complete. -/
structure Balanced (t : Text) : Prop where
  literal : ∀ k ∈ tokens t, k.isOpenLiteral = false
  nested : Nested (tokens t)
  last : (tokens t).getLast? ≠ some (.single '}')

theorem balanced_nil : Balanced [] := by
  refine ⟨?_, ?_, ?_⟩ <;> rw [tokens]
  · simp
  · exact .nil
  · simp

/-- Nested tokens are passed over at any depth. -/
theorem closeIn_append_of_nested {ks : List Token} (h : Nested ks) (depth : Nat)
    (more : List Token) :
    closeIn depth (ks ++ more) =
      (closeIn depth more).map (· + (ks.flatMap Token.text).length) := by
  induction h generalizing depth more with
  | nil => simp
  | single c _ ih =>
      rw [List.cons_append, closeIn, ih, Option.map_map]
      refine Option.map_congr fun p _ => ?_
      simp
      omega
  | literal t closed _ ih =>
      rw [List.cons_append, closeIn, ih, Option.map_map]
      refine Option.map_congr fun p _ => ?_
      simp
      omega
  | marker _ _ ihinner ihks =>
      rw [List.cons_append, List.append_assoc, List.cons_append, closeIn, ihinner, closeIn, ihks]
      simp only [Option.map_map]
      refine Option.map_congr fun p _ => ?_
      simp
      omega

/-- The marker around a balanced text is closed right behind it, whatever stands around it. -/
theorem close?_printed {inner : Text} (h : Balanced inner) (before after : Text) :
    close? (before ++ (opening ++ (inner ++ (closing ++ after)))) (before.length + 2) =
      some (before.length + 2 + inner.length) := by
  have hapart : Apart (tokens inner) (closing ++ after) :=
    ⟨h.literal, fun _ => by simp [closing], fun hlast => absurd hlast h.last⟩
  have hdrop : (opening ++ (inner ++ (closing ++ after))).drop 2 = inner ++ (closing ++ after) := rfl
  have hscan : scan none 0 (inner ++ (closing ++ after)) = some inner.length := by
    rw [scan_eq_closeIn, tokens_append hapart, closeIn_append_of_nested h.nested,
      flatMap_text_tokens]
    simp [closing, tokens_closing, closeIn]
  rw [close?_append_left, close?, hdrop, hscan]
  simp
  omega

end Marker
end PageLoom
