import Mathlib.Data.List.Nodup
import Mathlib.Algebra.Ring.Nat

set_option autoImplicit false

/-! # Lists with one entry per key

An entry is looked up, replaced or taken out by its key. When no two entries share a key, that
changes any sum over the entries by that entry's part alone (`sum_put`, `sum_erase`). -/

namespace PageLoom
namespace Keyed

variable {α κ : Type} [DecidableEq κ] (key : α → κ)

/-- The entry under a key. -/
def lookUp? (k : κ) (xs : List α) : Option α := xs.find? fun x => key x = k

/-- The entries, with `a` in place of the one under its key. -/
def put (a : α) (xs : List α) : List α := xs.map fun x => if key x = key a then a else x

/-- The entries without the one under a key. -/
def erase (k : κ) (xs : List α) : List α := xs.filter fun x => key x ≠ k

variable {key} {xs : List α} {a x : α} {k k' : κ}

/-! ## Looking up -/

theorem lookUp?_eq_none_iff : lookUp? key k xs = none ↔ k ∉ xs.map key := by
  simp [lookUp?]

theorem key_of_lookUp? (h : lookUp? key k xs = some x) : key x = k := by
  simpa using List.find?_some h

theorem mem_of_lookUp? (h : lookUp? key k xs = some x) : x ∈ xs := List.mem_of_find?_eq_some h

theorem lookUp?_of_mem (hnodup : (xs.map key).Nodup) (h : x ∈ xs) :
    lookUp? key (key x) xs = some x := by
  induction xs with
  | nil => cases h
  | cons y rest ih =>
      rw [List.map_cons, List.nodup_cons] at hnodup
      rcases List.mem_cons.1 h with rfl | hmem
      · simp [lookUp?]
      · have hne : key y ≠ key x := fun heq => hnodup.1 (heq ▸ List.mem_map_of_mem hmem)
        have hrest := ih hnodup.2 hmem
        unfold lookUp? at hrest ⊢
        simpa [hne] using hrest

theorem mem_iff_lookUp? (hnodup : (xs.map key).Nodup) :
    x ∈ xs ↔ lookUp? key (key x) xs = some x :=
  ⟨lookUp?_of_mem hnodup, mem_of_lookUp?⟩

theorem lookUp?_append_single (h : key a ∉ xs.map key) :
    lookUp? key k (xs ++ [a]) = if k = key a then some a else lookUp? key k xs := by
  unfold lookUp?
  by_cases hk : k = key a
  · subst hk
    have hnone := lookUp?_eq_none_iff.2 h
    unfold lookUp? at hnone
    simp [List.find?_append, hnone]
  · simp [List.find?_append, hk, Ne.symm hk]

omit [DecidableEq κ] in
theorem nodup_append_single (hnodup : (xs.map key).Nodup) (h : key a ∉ xs.map key) :
    ((xs ++ [a]).map key).Nodup := by
  rw [List.map_append]
  exact hnodup.append (List.nodup_singleton _) (by simpa using h)

/-! ## Replacing an entry -/

@[simp] theorem map_key_put : (put key a xs).map key = xs.map key := by
  unfold put
  rw [List.map_map]
  refine List.map_congr_left fun y _ => ?_
  by_cases h : key y = key a <;> simp [h]

theorem lookUp?_put :
    lookUp? key k (put key a xs) =
      if k = key a then (lookUp? key k xs).map fun _ => a else lookUp? key k xs := by
  induction xs with
  | nil => simp [lookUp?, put]
  | cons y rest ih =>
      unfold lookUp? put at ih ⊢
      by_cases hy : key y = key a <;> by_cases hk : k = key a <;> by_cases hyk : key y = k <;>
        simp_all

/-- Replacing an entry changes a sum by the difference of the two. -/
theorem sum_put (hnodup : (xs.map key).Nodup) (h : lookUp? key (key a) xs = some x) (f : α → ℕ) :
    ((put key a xs).map f).sum + f x = (xs.map f).sum + f a := by
  induction xs with
  | nil => simp [lookUp?] at h
  | cons y rest ih =>
      rw [List.map_cons, List.nodup_cons] at hnodup
      by_cases hy : key y = key a
      · -- The other entries have other keys and stay.
        have hrest : put key a rest = rest := by
          refine (List.map_congr_left fun z hz => ?_).trans (List.map_id _)
          have hne : key z ≠ key a := fun heq => hnodup.1 (hy ▸ heq ▸ List.mem_map_of_mem hz)
          simp [hne]
        have hx : y = x := by simpa [lookUp?, hy] using h
        have hput : put key a (y :: rest) = a :: put key a rest := by simp [put, hy]
        rw [hput, hrest, ← hx, List.map_cons, List.map_cons, List.sum_cons, List.sum_cons]
        omega
      · have hput : put key a (y :: rest) = y :: put key a rest := by simp [put, hy]
        have hsum := ih hnodup.2 (by simpa [lookUp?, hy] using h)
        rw [hput, List.map_cons, List.map_cons, List.sum_cons, List.sum_cons]
        omega

/-! ## Taking an entry out -/

theorem map_key_erase : (erase key k xs).map key = (xs.map key).filter (· ≠ k) := by
  unfold erase
  rw [List.filter_map]
  rfl

theorem nodup_erase (hnodup : (xs.map key).Nodup) : ((erase key k xs).map key).Nodup := by
  rw [map_key_erase]
  exact hnodup.filter _

theorem lookUp?_erase :
    lookUp? key k' (erase key k xs) = if k' = k then none else lookUp? key k' xs := by
  induction xs with
  | nil => simp [lookUp?, erase]
  | cons y rest ih =>
      unfold lookUp? erase at ih ⊢
      by_cases hy : key y = k <;> by_cases hk : k' = k <;> by_cases hyk : key y = k' <;>
        simp_all

/-- Taking an entry out takes its part out of a sum. -/
theorem sum_erase (hnodup : (xs.map key).Nodup) (h : lookUp? key k xs = some x) (f : α → ℕ) :
    ((erase key k xs).map f).sum + f x = (xs.map f).sum := by
  induction xs with
  | nil => simp [lookUp?] at h
  | cons y rest ih =>
      rw [List.map_cons, List.nodup_cons] at hnodup
      by_cases hy : key y = k
      · have hrest : erase key k rest = rest := by
          refine List.filter_eq_self.2 fun z hz => ?_
          have hne : key z ≠ k := fun heq => hnodup.1 (hy ▸ heq ▸ List.mem_map_of_mem hz)
          simpa using hne
        have hx : y = x := by simpa [lookUp?, hy] using h
        have herase : erase key k (y :: rest) = erase key k rest := by simp [erase, hy]
        rw [herase, hrest, ← hx, List.map_cons, List.sum_cons]
        omega
      · have herase : erase key k (y :: rest) = y :: erase key k rest := by simp [erase, hy]
        have hsum := ih hnodup.2 (by simpa [lookUp?, hy] using h)
        rw [herase, List.map_cons, List.map_cons, List.sum_cons, List.sum_cons]
        omega

/-! ## Values by their keys -/

section Values

variable {β : Type} {pairs : List (κ × β)} {v v' : β}

/-- The value under a key. -/
def value? (k : κ) (pairs : List (κ × β)) : Option β := (lookUp? Prod.fst k pairs).map Prod.snd

theorem value?_eq_some_iff :
    value? k pairs = some v ↔ lookUp? Prod.fst k pairs = some (k, v) := by
  rw [value?, Option.map_eq_some_iff]
  constructor
  · rintro ⟨⟨known, w⟩, hfound, rfl⟩
    obtain rfl : known = k := key_of_lookUp? hfound
    exact hfound
  · exact fun h => ⟨_, h, rfl⟩

theorem value?_eq_none_iff : value? k pairs = none ↔ k ∉ pairs.map Prod.fst := by
  rw [value?, Option.map_eq_none_iff, lookUp?_eq_none_iff]

theorem mem_iff_value? (hnodup : (pairs.map Prod.fst).Nodup) :
    (k, v) ∈ pairs ↔ value? k pairs = some v := by
  rw [mem_iff_lookUp? hnodup, value?_eq_some_iff]

theorem value?_append_single (h : value? k pairs = none) :
    value? k' (pairs ++ [(k, v)]) = if k' = k then some v else value? k' pairs := by
  rw [value?, lookUp?_append_single (value?_eq_none_iff.1 h)]
  by_cases hk : k' = k <;> simp [hk, value?]

theorem value?_put (h : value? k pairs = some v) :
    value? k' (put Prod.fst (k, v') pairs) = if k' = k then some v' else value? k' pairs := by
  rw [value?, lookUp?_put]
  by_cases hk : k' = k
  · subst hk
    simp [value?_eq_some_iff.1 h]
  · simp [hk, value?]

theorem value?_erase :
    value? k' (erase Prod.fst k pairs) = if k' = k then none else value? k' pairs := by
  rw [value?, lookUp?_erase]
  split <;> rfl

end Values

end Keyed
end PageLoom
