import PageLoom.LiveReload.Stream
import PageLoom.Proofs.LiveReload.Signal

set_option autoImplicit false

/-! # A registry with and without a client

To see what one client changes for the others, the registry is compared with the one in which the
client's handle was made, but never registered. The two stay alike whatever others do, and whatever
signals the client takes (`Broadcaster.Beside`). -/

namespace PageLoom
namespace LiveReload

namespace Broadcaster

variable {b c : Broadcaster} {id other : ℕ} {payload : Text}

/-! ## Handles that were made -/

theorem registered_after (b : Broadcaster) (d : Deed) :
    (b.after d).registered = match d with
      | .connect => b.registered ++ [b.handles.length + 1]
      | .disconnect gone => b.registered.filter (· ≠ gone)
      | .offer _ _ | .take _ => b.registered := by
  cases d with
  | connect | disconnect gone => rfl
  | offer target payload => exact b.registered_offer target payload
  | take owner => exact b.registered_take owner

theorem length_offer (b : Broadcaster) (id : ℕ) (payload : Text) :
    (b.offer id payload).1.handles.length = b.handles.length := by
  have hids := congrArg List.length (b.ids_offer id payload)
  simpa [ids] using hids

theorem length_take (b : Broadcaster) (id : ℕ) :
    (b.take id).1.handles.length = b.handles.length := by
  have hids := congrArg List.length (b.ids_take id)
  simpa [ids] using hids

theorem length_after (b : Broadcaster) (d : Deed) :
    (b.after d).handles.length = match d with
      | .connect => b.handles.length + 1
      | _ => b.handles.length := by
  cases d with
  | connect => simp [after, connect]
  | disconnect gone => rfl
  | offer target payload => exact b.length_offer target payload
  | take owner => exact b.length_take owner

/-- Every registered handle was made: the next one is not among them. -/
def Sound (b : Broadcaster) : Prop := ∀ id ∈ b.registered, id ≤ b.handles.length

theorem Sound.after (h : b.Sound) (d : Deed) : (b.after d).Sound := by
  intro id hid
  rw [registered_after] at hid
  rw [length_after]
  cases d with
  | connect =>
      rcases List.mem_append.1 hid with hbefore | hnew
      · exact Nat.le_succ_of_le (h id hbefore)
      · rw [List.mem_singleton.1 hnew]
  | disconnect gone => exact h id (List.mem_of_mem_filter hid)
  | offer target payload => exact h id hid
  | take owner => exact h id hid

theorem afterAll_append (b : Broadcaster) (before after : List Deed) :
    b.afterAll (before ++ after) = (b.afterAll before).afterAll after :=
  List.foldl_append

theorem Sound.afterAll (h : b.Sound) (deeds : List Deed) : (b.afterAll deeds).Sound := by
  induction deeds generalizing b with
  | nil => exact h
  | cons d rest ih => exact ih (h.after d)

theorem sound_empty : empty.Sound := nofun

/-- A client stays registered until it goes. -/
theorem mem_registered_after (hid : id ∈ b.registered) {d : Deed} (hstays : d ≠ .disconnect id) :
    id ∈ (b.after d).registered := by
  rw [registered_after]
  cases d with
  | connect => exact List.mem_append_left _ hid
  | disconnect gone =>
      have hne : id ≠ gone := by
        rintro rfl
        exact hstays rfl
      exact List.mem_filter.2 ⟨hid, by simpa using hne⟩
  | offer target payload => exact hid
  | take owner => exact hid

theorem mem_registered_afterAll (hid : id ∈ b.registered) {deeds : List Deed}
    (hstays : .disconnect id ∉ deeds) : id ∈ (b.afterAll deeds).registered := by
  induction deeds generalizing b with
  | nil => exact hid
  | cons d rest ih =>
      rw [List.mem_cons, not_or] at hstays
      exact ih (mem_registered_after hid (Ne.symm hstays.1)) hstays.2

/-! ## Two registries -/

/-- Two registries that differ in one client at most: the same others are registered, and the next
    handle is the same. -/
structure Beside (id : ℕ) (b c : Broadcaster) : Prop where
  others : b.registered.filter (· ≠ id) = c.registered
  length : b.handles.length = c.handles.length
  made : id ≤ b.handles.length

namespace Beside

/-- A client comes, and its handle is made here, and registered there. -/
theorem connect (h : b.Sound) : Beside b.connect.2 b.connect.1 b.make.1 where
  others := by
    have hothers : b.registered.filter (· ≠ b.handles.length + 1) = b.registered := by
      rw [List.filter_eq_self]
      intro id hid
      have hle := h id hid
      simp only [ne_eq, decide_not, Bool.not_eq_true', decide_eq_false_iff_not]
      omega
    show (b.registered ++ [b.handles.length + 1]).filter (· ≠ b.handles.length + 1) = b.registered
    rw [List.filter_append, hothers]
    simp
  length := rfl
  made := by simp [Broadcaster.connect]

theorem after (h : Beside id b c) (d : Deed) : Beside id (b.after d) (c.after d) where
  others := by
    rw [registered_after, registered_after, ← h.others, ← h.length]
    cases d with
    | connect =>
        have hnew : b.handles.length + 1 ≠ id := by
          have hmade := h.made
          omega
        simp [List.filter_append, hnew]
    | disconnect gone => exact List.filter_comm ..
    | offer target payload => rfl
    | take owner => rfl
  length := by rw [length_after, length_after, h.length]
  made := by
    have hmade := h.made
    rw [length_after]
    split <;> omega

theorem afterAll (h : Beside id b c) (deeds : List Deed) :
    Beside id (b.afterAll deeds) (c.afterAll deeds) := by
  induction deeds generalizing b c with
  | nil => exact h
  | cons d rest ih => exact ih (h.after d)

/-- A wait of the client itself is seen nowhere else. -/
theorem take (h : Beside id b c) (owner : ℕ) : Beside id (b.take owner).1 c where
  others := by rw [registered_take, h.others]
  length := by rw [length_take, h.length]
  made := by rw [length_take]; exact h.made

/-- Once the client is forgotten, the same clients are registered. -/
theorem registered_disconnect (h : Beside id b c) :
    (b.disconnect id).registered = c.registered :=
  h.others

end Beside

/-! ## Signals that are kept -/

/-- Every signal that is kept is such a one. -/
def KeepsOnly (P : Text → Prop) (b : Broadcaster) : Prop :=
  ∀ h ∈ b.handles, ∀ payload, h.slot = some payload → P payload

section Kept

variable {P : Text → Prop}

theorem KeepsOnly.update (hkeeps : b.KeepsOnly P) {h : Handle}
    (hslot : ∀ payload, h.slot = some payload → P payload) : (b.update h).KeepsOnly P := by
  intro g hg
  obtain ⟨g₀, hg₀, rfl⟩ := List.mem_map.1 hg
  split
  · exact hslot
  · exact hkeeps g₀ hg₀

theorem KeepsOnly.take (hkeeps : b.KeepsOnly P) (id : ℕ) : (b.take id).1.KeepsOnly P := by
  unfold Broadcaster.take
  cases b.handle? id with
  | none => exact hkeeps
  | some h => exact hkeeps.update nofun

/-- A wait brings a signal that was kept. -/
theorem KeepsOnly.taken (hkeeps : b.KeepsOnly P) (htaken : (b.take id).2 = some payload) : P payload := by
  unfold Broadcaster.take at htaken
  cases hfound : b.handle? id with
  | none =>
      rw [hfound] at htaken
      cases htaken
  | some h =>
      rw [hfound] at htaken
      exact hkeeps h (List.mem_of_find?_eq_some hfound) payload htaken

theorem KeepsOnly.offer (hkeeps : b.KeepsOnly P) (id : ℕ) (hpayload : P payload) :
    (b.offer id payload).1.KeepsOnly P := by
  unfold Broadcaster.offer
  cases hfound : b.handle? id with
  | none => exact hkeeps
  | some h =>
      refine hkeeps.update (h := (h.offer payload).1) ?_
      unfold Handle.offer
      intro kept hkept
      split at hkept
      · exact hkeeps h (List.mem_of_find?_eq_some hfound) kept hkept
      · cases hkept
        exact hpayload

theorem KeepsOnly.after (hkeeps : b.KeepsOnly P) (d : Deed)
    (hoffers : ∀ id payload, d = .offer id payload → P payload) : (b.after d).KeepsOnly P := by
  cases d with
  | connect =>
      intro h hh
      rcases List.mem_append.1 hh with hbefore | hnew
      · exact hkeeps h hbefore
      · rw [List.mem_singleton.1 hnew]
        exact nofun
  | disconnect gone => exact hkeeps
  | offer target payload => exact hkeeps.offer target (hoffers target payload rfl)
  | take owner => exact hkeeps.take owner

theorem KeepsOnly.afterAll (hkeeps : b.KeepsOnly P) (deeds : List Deed)
    (hoffers : ∀ id payload, .offer id payload ∈ deeds → P payload) :
    (b.afterAll deeds).KeepsOnly P := by
  induction deeds generalizing b with
  | nil => exact hkeeps
  | cons d rest ih =>
      refine ih (hkeeps.after d ?_) ?_
      · rintro id payload rfl
        exact hoffers id payload List.mem_cons_self
      · intro id payload hmem
        exact hoffers id payload (List.mem_cons_of_mem _ hmem)

theorem keepsOnly_empty : empty.KeepsOnly P := nofun

end Kept

end Broadcaster

end LiveReload
end PageLoom
