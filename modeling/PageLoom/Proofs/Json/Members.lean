import PageLoom.Json.Basic
import PageLoom.Proofs.Keyed

set_option autoImplicit false

/-! # Members set one after the other

Setting a member leaves one value to a name, so members that are set one after the other are a
mapping in which the last value of each name counts (`member?_foldl_setMember`). -/

namespace PageLoom

variable {α : Type} {name other : Text} {value : α} {members writes : List (Text × α)}

/-! ## Looking up -/

theorem member?_eq_value? : member? name members = Keyed.value? name members := rfl

theorem member?_eq_none_iff : member? name members = none ↔ name ∉ members.map Prod.fst := by
  rw [member?_eq_value?, Keyed.value?_eq_none_iff]

theorem mem_of_member? (h : member? name members = some value) : (name, value) ∈ members := by
  rw [member?_eq_value?, Keyed.value?_eq_some_iff] at h
  exact Keyed.mem_of_lookUp? h

theorem member?_of_mem (hnodup : (members.map Prod.fst).Nodup) (h : (name, value) ∈ members) :
    member? name members = some value := by
  rw [member?_eq_value?]
  exact (Keyed.mem_iff_value? hnodup).1 h

@[simp] theorem member?_nil : member? name ([] : List (Text × α)) = none := rfl

theorem member?_cons :
    member? name ((other, value) :: members) =
      if other = name then some value else member? name members := by
  unfold member?
  by_cases h : other = name <;> simp [h]

theorem member?_append :
    member? name (members ++ writes) = (member? name members).or (member? name writes) := by
  unfold member?
  rw [List.find?_append]
  cases members.find? fun m => m.1 = name <;> simp

/-! ## Setting -/

theorem member?_setMember :
    member? other (setMember name value members) =
      if name = other then some value else member? other members := by
  by_cases h : name = other
  · subst h
    rw [if_pos rfl, member?_setMember_self]
  · rw [if_neg h, member?_setMember_of_ne (Ne.symm h)]

/-- A new name goes to the end, a known one stays where it is. -/
theorem map_fst_setMember :
    (setMember name value members).map Prod.fst =
      if name ∈ members.map Prod.fst then members.map Prod.fst
      else members.map Prod.fst ++ [name] := by
  induction members with
  | nil => simp [setMember]
  | cons m rest ih =>
      obtain ⟨known, old⟩ := m
      by_cases h : known = name
      · simp [setMember, h]
      · rw [setMember, if_neg h, List.map_cons, ih]
        by_cases hrest : name ∈ rest.map Prod.fst
        · have hknown : name ∈ ((known, old) :: rest).map Prod.fst :=
            List.mem_cons_of_mem _ hrest
          rw [if_pos hrest, if_pos hknown, List.map_cons]
        · have hnew : name ∉ ((known, old) :: rest).map Prod.fst := by
            rw [List.map_cons, List.mem_cons, not_or]
            exact ⟨Ne.symm h, hrest⟩
          rw [if_neg hrest, if_neg hnew, List.map_cons, List.cons_append]

theorem nodup_setMember (h : (members.map Prod.fst).Nodup) :
    ((setMember name value members).map Prod.fst).Nodup := by
  rw [map_fst_setMember]
  split
  · exact h
  next hnew => exact h.append (List.nodup_singleton _) (by simpa using hnew)

/-! ## Setting one after the other -/

theorem nodup_foldl_setMember (h : (members.map Prod.fst).Nodup) :
    ((writes.foldl (fun known m => setMember m.1 m.2 known) members).map Prod.fst).Nodup := by
  induction writes generalizing members with
  | nil => exact h
  | cons w rest ih => exact ih (nodup_setMember h)

/-- **The last value of a name counts.** -/
theorem member?_foldl_setMember :
    member? name (writes.foldl (fun known m => setMember m.1 m.2 known) members) =
      (member? name writes.reverse).or (member? name members) := by
  induction writes generalizing members with
  | nil => rfl
  | cons w rest ih =>
      obtain ⟨written, v⟩ := w
      rw [List.foldl_cons, ih, List.reverse_cons, member?_append, member?_cons, member?_setMember]
      by_cases h : written = name
      · simp [h]
      · simp [h]

end PageLoom
