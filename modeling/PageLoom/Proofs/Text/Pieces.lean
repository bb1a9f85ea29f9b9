import Mathlib.Data.List.Basic
import PageLoom.Text.Basic

set_option autoImplicit false

/-! # Pieces of texts

A text is split at every occurrence of one character, so that none of its pieces holds that
character. Pieces that do not hold it come out again as they were joined. -/

namespace PageLoom
namespace Text

theorem splitOn_eq (c : Char) (t : Text) : splitOn c t = List.splitOn c t := by
  induction t with
  | nil => rfl
  | cons d rest ih =>
      rw [splitOn, ih, List.splitOn_cons_eq_if_modifyHead]
      by_cases h : d = c
      · simp [h]
      · cases hrest : List.splitOn c rest with
        | nil => exact absurd hrest (List.splitOn_ne_nil c rest)
        | cons piece pieces => simp [h]

theorem splitOn_append_cons (c : Char) (t u : Text) :
    splitOn c (t ++ c :: u) = splitOn c t ++ splitOn c u := by
  simp only [splitOn_eq]
  exact List.splitOn_append_cons_self ..

theorem splitOn_join {c : Char} {pieces : List Text} (hne : pieces ≠ [])
    (h : ∀ piece ∈ pieces, c ∉ piece) : splitOn c (join [c] pieces) = pieces := by
  rw [splitOn_eq]
  exact List.splitOn_intercalate c h hne

theorem not_mem_of_mem_splitOn {c : Char} {t piece : Text} (h : piece ∈ splitOn c t) :
    c ∉ piece := by
  induction t generalizing piece with
  | nil => simp_all [splitOn]
  | cons d rest ih =>
      rw [splitOn] at h
      split at h
      · rcases List.mem_cons.1 h with rfl | hrest
        · exact List.not_mem_nil
        · exact ih hrest
      next hd =>
        cases hsplit : splitOn c rest with
        | nil =>
            rw [hsplit, List.mem_singleton] at h
            subst h
            simpa using Ne.symm hd
        | cons first pieces =>
            rw [hsplit] at h ih
            rcases List.mem_cons.1 h with rfl | hrest
            · simpa [Ne.symm hd] using ih List.mem_cons_self
            · exact ih (List.mem_cons_of_mem _ hrest)

/-- A text without the character is in one piece. -/
theorem splitOn_of_not_mem {c : Char} {t : Text} (h : c ∉ t) : splitOn c t = [t] := by
  have hjoin : splitOn c (join [c] [t]) = [t] :=
    splitOn_join (List.cons_ne_nil t []) fun piece hpiece => List.mem_singleton.1 hpiece ▸ h
  simpa [join] using hjoin

end Text
end PageLoom
