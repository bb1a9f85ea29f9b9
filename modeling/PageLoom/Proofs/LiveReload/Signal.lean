import PageLoom.LiveReload.Broadcaster
import PageLoom.Proofs.Keyed

set_option autoImplicit false

/-! # Signals in handles

Which handles keep a signal after one of them was offered one, or after a wait. An offer is lost
exactly if the handle keeps a signal already, so afterwards it keeps one in any case. -/

namespace PageLoom
namespace LiveReload

namespace Handle

variable (payload : Text) (h : Handle)

theorem id_offer : (h.offer payload).1.id = h.id := by
  unfold offer
  split <;> rfl

theorem pending_offer : (h.offer payload).1.pending = true := by
  unfold offer
  split
  next hkept => exact hkept
  next => rfl

theorem stored_offer : (h.offer payload).2 = !h.pending := by
  unfold offer
  split
  next hkept => simp [hkept]
  next hfree => simp [hfree]

end Handle

namespace Broadcaster

variable {b : Broadcaster} {id other : ℕ} {payload : Text}

/-- Whether a handle keeps a signal. -/
def keeps (b : Broadcaster) (id : ℕ) : Bool := (b.handle? id).any Handle.pending

/-- The ids of all handles. -/
def ids (b : Broadcaster) : List ℕ := b.handles.map Handle.id

theorem length_pending (b : Broadcaster) :
    b.pending.length = (b.handles.map fun h => h.pending.toNat).sum := by
  unfold pending
  rw [List.length_map]
  induction b.handles with
  | nil => rfl
  | cons h rest ih => cases hp : h.pending <;> simp [hp, ih, Nat.add_comm]

theorem handle?_isSome_iff : (b.handle? id).isSome ↔ id ∈ b.ids := by
  have hnone : b.handle? id = none ↔ id ∉ b.ids := Keyed.lookUp?_eq_none_iff
  rw [← not_iff_not, ← hnone]
  simp

/-! ## Replacing a handle -/

theorem ids_update (b : Broadcaster) (h : Handle) : (b.update h).ids = b.ids :=
  Keyed.map_key_put

theorem keeps_update {g h : Handle} (hfound : b.handle? h.id = some g) :
    (b.update h).keeps other = if other = h.id then h.pending else b.keeps other := by
  have hput : (b.update h).handle? other =
      if other = h.id then (b.handle? other).map fun _ => h else b.handle? other :=
    Keyed.lookUp?_put
  unfold keeps
  rw [hput]
  split
  next heq => rw [heq, hfound]; rfl
  next => rfl

theorem length_pending_update {g h : Handle} (hids : b.ids.Nodup)
    (hfound : b.handle? h.id = some g) :
    (b.update h).pending.length + g.pending.toNat = b.pending.length + h.pending.toNat := by
  rw [length_pending, length_pending]
  exact Keyed.sum_put hids hfound fun h => h.pending.toNat

/-! ## Making and registering a handle -/

/-- Makes a handle, which is not registered yet. -/
def make (b : Broadcaster) : Broadcaster × ℕ :=
  let id := b.handles.length + 1
  (⟨b.handles ++ [⟨id, none⟩], b.registered⟩, id)

/-- Registers a handle. -/
def register (b : Broadcaster) (id : ℕ) : Broadcaster :=
  { b with registered := b.registered ++ [id] }

theorem connect_eq (b : Broadcaster) : b.connect = (b.make.1.register b.make.2, b.make.2) := rfl

theorem ids_make (b : Broadcaster) : b.make.1.ids = b.ids ++ [b.make.2] :=
  List.map_append

theorem keeps_make (b : Broadcaster) (id : ℕ) : b.make.1.keeps id = b.keeps id := by
  unfold keeps handle? make
  rw [List.find?_append]
  cases List.find? (fun h : Handle => decide (h.id = id)) b.handles with
  | some h => rfl
  | none =>
      by_cases hid : b.handles.length + 1 = id <;> simp [hid, Handle.pending]

theorem length_pending_make (b : Broadcaster) : b.make.1.pending.length = b.pending.length := by
  simp [pending, make, Handle.pending]

/-! ## Offering a signal -/

theorem ids_offer (b : Broadcaster) (id : ℕ) (payload : Text) :
    (b.offer id payload).1.ids = b.ids := by
  unfold offer
  cases b.handle? id with
  | none => rfl
  | some h => exact ids_update b _

theorem registered_offer (b : Broadcaster) (id : ℕ) (payload : Text) :
    (b.offer id payload).1.registered = b.registered := by
  unfold offer
  cases b.handle? id with
  | none => rfl
  | some h => rfl

theorem handle?_of_mem_ids (h : id ∈ b.ids) : ∃ g, b.handle? id = some g ∧ g.id = id := by
  obtain ⟨g, hfound⟩ := Option.isSome_iff_exists.1 (handle?_isSome_iff.2 h)
  exact ⟨g, hfound, Keyed.key_of_lookUp? hfound⟩

theorem offer_eq {g : Handle} (hfound : b.handle? g.id = some g) (payload : Text) :
    b.offer g.id payload = (b.update (g.offer payload).1, (g.offer payload).2) := by
  unfold offer
  rw [hfound]

theorem keeps_eq {g : Handle} (hfound : b.handle? g.id = some g) : b.keeps g.id = g.pending := by
  unfold keeps
  rw [hfound]
  rfl

/-- An offer is stored unless the handle keeps a signal. -/
theorem offer_stored (h : id ∈ b.ids) (payload : Text) :
    (b.offer id payload).2 = !b.keeps id := by
  obtain ⟨g, hfound, rfl⟩ := handle?_of_mem_ids h
  rw [offer_eq hfound, keeps_eq hfound]
  exact g.stored_offer payload

/-- After an offer, stored or lost, the handle keeps a signal. -/
theorem keeps_offer (h : id ∈ b.ids) (payload : Text) (other : ℕ) :
    (b.offer id payload).1.keeps other = (decide (other = id) || b.keeps other) := by
  obtain ⟨g, hfound, rfl⟩ := handle?_of_mem_ids h
  have hid := g.id_offer payload
  rw [offer_eq hfound, keeps_update (hid ▸ hfound), hid, g.pending_offer payload]
  by_cases hother : other = g.id <;> simp [hother]

theorem length_pending_offer (hids : b.ids.Nodup) (h : id ∈ b.ids) (payload : Text) :
    (b.offer id payload).1.pending.length =
      b.pending.length + (b.offer id payload).2.toNat := by
  obtain ⟨g, hfound, rfl⟩ := handle?_of_mem_ids h
  have hupdate := length_pending_update hids (g.id_offer payload ▸ hfound)
  have hpending := g.pending_offer payload
  have hstored := g.stored_offer payload
  rw [offer_eq hfound]
  cases hkept : g.pending <;> simp_all

/-! ## Waiting for a signal -/

theorem ids_take (b : Broadcaster) (id : ℕ) : (b.take id).1.ids = b.ids := by
  unfold take
  cases b.handle? id with
  | none => rfl
  | some h => exact ids_update b _

theorem registered_take (b : Broadcaster) (id : ℕ) :
    (b.take id).1.registered = b.registered := by
  unfold take
  cases b.handle? id with
  | none => rfl
  | some h => rfl

/-- A wait brings the signal that a handle keeps. -/
theorem isSome_take (b : Broadcaster) (id : ℕ) : (b.take id).2.isSome = b.keeps id := by
  unfold take keeps
  cases b.handle? id with
  | none => rfl
  | some h => rfl

theorem keeps_take (b : Broadcaster) (id other : ℕ) :
    (b.take id).1.keeps other = (decide (other ≠ id) && b.keeps other) := by
  cases hfound : b.handle? id with
  | none =>
      have htake : (b.take id).1 = b := by
        unfold take
        rw [hfound]
      rw [htake]
      by_cases hother : other = id
      · simp [hother, keeps, hfound]
      · simp [hother]
  | some g =>
      obtain rfl : g.id = id := Keyed.key_of_lookUp? hfound
      have htake : (b.take g.id).1 = b.update g.take.1 := by
        unfold take
        rw [hfound]
      rw [htake, keeps_update (h := g.take.1) hfound]
      by_cases hother : other = g.id <;> simp [hother, Handle.take, Handle.pending]

theorem length_pending_take (hids : b.ids.Nodup) (id : ℕ) :
    (b.take id).1.pending.length + (b.keeps id).toNat = b.pending.length := by
  cases hfound : b.handle? id with
  | none => simp [take, keeps, hfound]
  | some g =>
      obtain rfl : g.id = id := Keyed.key_of_lookUp? hfound
      have htake : (b.take g.id).1 = b.update g.take.1 := by
        unfold take
        rw [hfound]
      rw [htake, keeps_eq hfound]
      exact length_pending_update (h := g.take.1) hids hfound

end Broadcaster
end LiveReload
end PageLoom
