import PageLoom.Log

set_option autoImplicit false

/-! # Reload signals

Every open page has a handle with room for one signal. A broadcast offers a signal to each
registered handle; an offer to a full handle is lost, which does no harm, because the page reloads
for the signal it still has. A handle keeps its signal when it is no longer registered. -/

namespace PageLoom
namespace LiveReload

/-- The payload that makes a page reload. -/
def reloadSignal : Text := "reload"

/-- A client's handle: at most one signal is kept in it. -/
structure Handle where
  id : Nat
  slot : Option Text
  deriving DecidableEq, Repr

namespace Handle

/-- Whether a signal is kept. -/
def pending (h : Handle) : Bool := h.slot.isSome

/-- Puts a signal in, if there is room. -/
def offer (payload : Text) (h : Handle) : Handle × Bool :=
  if h.pending then (h, false) else ({ h with slot := some payload }, true)

/-- Takes the signal out. -/
def take (h : Handle) : Handle × Option Text := ({ h with slot := none }, h.slot)

end Handle

/-- Every handle ever made, and the ids of those that are registered, oldest first. -/
structure Broadcaster where
  handles : List Handle
  registered : List Nat
  deriving DecidableEq, Repr

namespace Broadcaster

/-- No client has ever come. -/
def empty : Broadcaster := ⟨[], []⟩

/-- The handle with an id. -/
def handle? (b : Broadcaster) (id : Nat) : Option Handle := b.handles.find? (·.id = id)

/-- The handles with one of them changed. -/
def update (b : Broadcaster) (h : Handle) : Broadcaster :=
  { b with handles := b.handles.map fun g => if g.id = h.id then h else g }

/-- A new client: its id is one more than the number of clients before it. -/
def connect (b : Broadcaster) : Broadcaster × Nat :=
  let id := b.handles.length + 1
  (⟨b.handles ++ [⟨id, none⟩], b.registered ++ [id]⟩, id)

/-- Forgets a client; an unknown one is passed over. -/
def disconnect (b : Broadcaster) (id : Nat) : Broadcaster :=
  { b with registered := b.registered.filter (· ≠ id) }

/-- Offers a signal to one handle. -/
def offer (b : Broadcaster) (id : Nat) (payload : Text) : Broadcaster × Bool :=
  match b.handle? id with
  | some h =>
      let (h, stored) := h.offer payload
      (b.update h, stored)
  | none => (b, false)

/-- Takes the signal of a handle. -/
def take (b : Broadcaster) (id : Nat) : Broadcaster × Option Text :=
  match b.handle? id with
  | some h =>
      let (h, payload) := h.take
      (b.update h, payload)
  | none => (b, none)

/-- Offers the reload signal to some handles, and counts those that stored it. -/
def offerAll (b : Broadcaster) : List Nat → Broadcaster × Nat
  | [] => (b, 0)
  | id :: rest =>
      let (b, stored) := b.offer id reloadSignal
      let (b, count) := offerAll b rest
      (b, count + if stored then 1 else 0)

/-- Offers the reload signal to every registered handle. -/
def broadcast (b : Broadcaster) : Broadcaster × Nat := b.offerAll b.registered

/-- What a broadcast notes. -/
def note (delivered : Nat) : Entry :=
  .debug 2 ("Reload signalled to " ++ Text.ofNat delivered ++ " client(s)")

/-- The number of registered clients. -/
def count (b : Broadcaster) : Nat := b.registered.length

/-- The ids of all handles that keep a signal. -/
def pending (b : Broadcaster) : List Nat := (b.handles.filter Handle.pending).map Handle.id

end Broadcaster
end LiveReload
end PageLoom
