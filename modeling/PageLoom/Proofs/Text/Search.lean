import Mathlib.Data.List.Infix
import PageLoom.Text.Basic

set_option autoImplicit false

/-! # Searching and slicing texts

`Text.find?` gives the least offset at which the needle stands, so a search is described by what
stands at an offset and by what stands at no smaller one. Slices at ascending offsets fit together
without loss. -/

namespace PageLoom
namespace Text

/-! ## The first occurrence -/

/-- Nothing is found exactly when the needle stands nowhere. -/
theorem find?_eq_none_iff (needle t : Text) :
    find? needle t = none ↔ ∀ i ≤ t.length, ¬ needle <+: t.drop i := by
  induction t with
  | nil => simp [find?]
  | cons c rest ih =>
      simp only [find?, List.isPrefixOf_iff_prefix]
      split
      · next h =>
          simp only [reduceCtorEq, false_iff, not_forall, not_not]
          exact ⟨0, Nat.zero_le _, h⟩
      · next h =>
          rw [Option.map_eq_none_iff, ih]
          constructor
          · intro hnone i hi
            cases i with
            | zero => exact h
            | succ i => exact hnone i (by simpa using hi)
          · intro hnone i hi
            exact hnone (i + 1) (by simpa using hi)

/-- What is found is the least offset at which the needle stands. -/
theorem find?_eq_some_iff (needle t : Text) (i : Nat) :
    find? needle t = some i ↔
      i ≤ t.length ∧ needle <+: t.drop i ∧ ∀ j < i, ¬ needle <+: t.drop j := by
  induction t generalizing i with
  | nil => cases i <;> simp [find?]
  | cons c rest ih =>
      simp only [find?, List.isPrefixOf_iff_prefix]
      split
      · next h =>
          constructor
          · rintro ⟨rfl⟩
            exact ⟨Nat.zero_le _, h, fun j hj => absurd hj (Nat.not_lt_zero j)⟩
          · rintro ⟨-, -, hleast⟩
            cases i with
            | zero => rfl
            | succ i => exact absurd h (hleast 0 (Nat.succ_pos i))
      · next h =>
          cases i with
          | zero =>
              simp only [Option.map_eq_some_iff, Nat.add_one_ne_zero, and_false, exists_false,
                List.drop_zero, false_iff]
              exact fun hstands => h hstands.2.1
          | succ i =>
              simp only [Option.map_eq_some_iff, Nat.add_right_cancel_iff, exists_eq_right, ih,
                List.length_cons, Nat.add_le_add_iff_right, List.drop_succ_cons]
              refine and_congr_right fun _ => and_congr_right fun _ => ⟨fun hleast j hj => ?_,
                fun hleast j hj => hleast (j + 1) (by omega)⟩
              cases j with
              | zero => exact h
              | succ j => exact hleast j (by omega)

theorem findFrom?_eq_none_iff (needle t : Text) (start : Nat) :
    findFrom? needle t start = none ↔
      ∀ i, start ≤ i → i ≤ max start t.length → ¬ needle <+: t.drop i := by
  simp only [findFrom?, Option.map_eq_none_iff, find?_eq_none_iff, List.length_drop, List.drop_drop]
  constructor
  · intro hnone i hi hlen
    simpa [Nat.add_sub_cancel' hi] using hnone (i - start) (by omega)
  · intro hnone i hi
    exact hnone (start + i) (by omega) (by omega)

theorem findFrom?_eq_some_iff (needle t : Text) (start i : Nat) :
    findFrom? needle t start = some i ↔
      start ≤ i ∧ i ≤ max start t.length ∧ needle <+: t.drop i ∧
        ∀ j, start ≤ j → j < i → ¬ needle <+: t.drop j := by
  simp only [findFrom?, Option.map_eq_some_iff, find?_eq_some_iff, List.length_drop, List.drop_drop]
  constructor
  · rintro ⟨k, ⟨hlen, hat, hleast⟩, rfl⟩
    refine ⟨by omega, by omega, by rwa [Nat.add_comm], fun j hj hlt => ?_⟩
    simpa [Nat.add_sub_cancel' hj] using hleast (j - start) (by omega)
  · rintro ⟨hstart, hlen, hat, hleast⟩
    refine ⟨i - start, ⟨by omega, by rwa [Nat.add_sub_cancel' hstart], fun j hj => ?_⟩, by omega⟩
    exact hleast (start + j) (by omega) (by omega)

theorem lt_length_of_prefix_drop {needle t : Text} {i : Nat} (h : needle <+: t.drop i)
    (hne : needle ≠ []) : i < t.length := by
  by_contra hle
  rw [List.drop_eq_nil_of_le (by omega)] at h
  exact hne (List.prefix_nil.1 h)

/-- A needle with a character in it stands only inside the text, so nothing needs to be said of
    offsets behind its end. -/
theorem findFrom?_eq_none_iff_of_ne_nil {needle : Text} (hne : needle ≠ []) (t : Text)
    (start : Nat) :
    findFrom? needle t start = none ↔ ∀ i, start ≤ i → ¬ needle <+: t.drop i := by
  rw [findFrom?_eq_none_iff]
  refine ⟨fun hnone i hi hpre => ?_, fun hnone i hi _ => hnone i hi⟩
  have hlt := lt_length_of_prefix_drop hpre hne
  exact hnone i hi (by omega) hpre

theorem findFrom?_eq_some_iff_of_ne_nil {needle : Text} (hne : needle ≠ []) (t : Text)
    (start i : Nat) :
    findFrom? needle t start = some i ↔
      start ≤ i ∧ needle <+: t.drop i ∧ ∀ j, start ≤ j → j < i → ¬ needle <+: t.drop j := by
  rw [findFrom?_eq_some_iff]
  refine ⟨fun ⟨hstart, _, hrest⟩ => ⟨hstart, hrest⟩, fun ⟨hstart, hpre, hfirst⟩ => ?_⟩
  have hlt := lt_length_of_prefix_drop hpre hne
  exact ⟨hstart, by omega, hpre, hfirst⟩

theorem findFrom?_zero (needle t : Text) : findFrom? needle t 0 = find? needle t := by
  simp [findFrom?]

/-- A text of one character stands where that character does. -/
theorem singleton_prefix_drop_iff (c : Char) (t : Text) (i : Nat) :
    [c] <+: t.drop i ↔ t[i]? = some c := by
  rw [← List.head?_drop, List.cons_prefix_iff, List.head?_eq_some_iff]
  simp

/-- A search that begins behind some text does not see that text. -/
theorem findFrom?_append_left (needle before t : Text) (start : Nat) :
    findFrom? needle (before ++ t) (before.length + start) =
      (findFrom? needle t start).map (before.length + ·) := by
  have hdrop : (before ++ t).drop (before.length + start) = t.drop start := by
    rw [List.drop_append, List.drop_eq_nil_of_le (by omega), List.nil_append,
      Nat.add_sub_cancel_left]
  rw [findFrom?, findFrom?, hdrop, Option.map_map]
  refine Option.map_congr fun i _ => ?_
  simp only [Function.comp_apply]
  omega

/-! ## Slices -/

@[simp] theorem length_slice (t : Text) (i j : Nat) :
    (slice t i j).length = min j t.length - i := by
  simp [slice]

/-- A slice is what is left of the rest of the text. -/
theorem slice_eq_take_drop (t : Text) (i j : Nat) : slice t i j = (t.drop i).take (j - i) := by
  rw [slice, List.drop_take]

theorem slice_append_drop (t : Text) {i j : Nat} (h : i ≤ j) :
    slice t i j ++ t.drop j = t.drop i := by
  have hdrop : t.drop j = (t.drop i).drop (j - i) := by
    rw [List.drop_drop, Nat.add_sub_cancel' h]
  rw [slice_eq_take_drop, hdrop, List.take_append_drop]

theorem slice_append_slice (t : Text) {i j k : Nat} (hij : i ≤ j) (hjk : j ≤ k) :
    slice t i j ++ slice t j k = slice t i k := by
  have htake : t.take j = (t.take k).take j := by rw [List.take_take, Nat.min_eq_left hjk]
  unfold slice
  rw [htake]
  exact slice_append_drop (t.take k) hij

/-- A slice behind some text does not see that text. -/
theorem slice_append_left (before t : Text) (i j : Nat) :
    slice (before ++ t) (before.length + i) (before.length + j) = slice t i j := by
  have hdrop : (before ++ t).drop (before.length + i) = t.drop i := by
    rw [List.drop_append, List.drop_eq_nil_of_le (by omega), List.nil_append,
      Nat.add_sub_cancel_left]
  rw [slice_eq_take_drop, slice_eq_take_drop, hdrop, Nat.add_sub_add_left]

/-- The middle one of three texts. -/
theorem slice_middle (before middle after : Text) :
    slice (before ++ (middle ++ after)) before.length (before.length + middle.length) = middle := by
  rw [slice_eq_take_drop, List.drop_left, Nat.add_sub_cancel_left, List.take_left]

end Text
end PageLoom
