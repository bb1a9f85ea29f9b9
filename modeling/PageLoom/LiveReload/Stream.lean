import PageLoom.LiveReload.Broadcaster

set_option autoImplicit false

/-! # The live-reload stream

A stream tells an open page that it is connected, and then one event for every signal. It waits in
short turns; when a turn brings no signal, the stream ends if its peer has gone, and writes a
comment when nothing was written for long. It ends with the server. The handle of the stream is
registered for as long as the stream lasts, and no longer. Meanwhile others come, go and signal in
the same registry. -/

namespace PageLoom
namespace LiveReload

/-- What another thread does in the registry. -/
inductive Deed where
  /-- A client comes. -/
  | connect
  /-- A client goes. -/
  | disconnect (id : Nat)
  /-- A broadcast offers a signal to a handle. -/
  | offer (id : Nat) (payload : Text)
  /-- A client takes the signal of a handle. -/
  | take (id : Nat)
  deriving DecidableEq, Repr

namespace Broadcaster

/-- The registry after a deed. -/
def after (b : Broadcaster) : Deed → Broadcaster
  | .connect => b.connect.1
  | .disconnect id => b.disconnect id
  | .offer id payload => (b.offer id payload).1
  | .take id => (b.take id).1

/-- The registry after some deeds. -/
def afterAll (b : Broadcaster) (deeds : List Deed) : Broadcaster := deeds.foldl after b

end Broadcaster

/-- Why a write fails. -/
inductive WriteFault where
  | brokenPipe
  | reset
  | aborted
  /-- A fault that is none of the peer's. -/
  | other
  deriving DecidableEq, Repr

/-- Whether a fault only says that the peer has gone. -/
def WriteFault.isPeerGone : WriteFault → Bool
  | other => false
  | _ => true

/-- What is known about the other end. -/
structure Peer where
  closed : Bool := false
  /-- It has sent octets that nobody reads. -/
  unread : Bool := false
  unreadable : Bool := false
  /-- Why every write fails from now on. -/
  broken : Option WriteFault := none
  deriving DecidableEq, Repr

/-- Whether the peer is seen to have gone: octets that were sent before hide it. -/
def Peer.gone (p : Peer) : Bool := p.unreadable || (p.closed && !p.unread)

/-- What changes around a stream while it waits. -/
structure Change where
  closed : Bool := false
  unread : Bool := false
  unreadable : Bool := false
  broken : Option WriteFault := none
  /-- The server begins to close. -/
  closing : Bool := false

/-- The peer after a wait. -/
def Peer.after (peer : Peer) (c : Change) : Peer where
  closed := peer.closed || c.closed
  unread := peer.unread || c.unread
  unreadable := peer.unreadable || c.unreadable
  broken := c.broken.or peer.broken

/-- One turn of a stream's loop, as its surroundings make it. -/
structure Turn extends Change where
  /-- What others do in the registry until the wait is over. -/
  deeds : List Deed
  /-- What the clock shows after the wait. -/
  now : Float
  /-- What the clock shows after a write. -/
  afterWrite : Float

/-- A stream at work. -/
structure Stream where
  /-- The registry that it shares with others. -/
  registry : Broadcaster
  /-- The handle of the stream. -/
  id : Nat
  peer : Peer
  closing : Bool
  clock : Float
  lastWrite : Float
  /-- The events written so far. -/
  written : List Text
  /-- The waits made so far. -/
  polls : Nat
  /-- It has seen that its peer is gone. -/
  left : Bool
  /-- The fault that ended the stream. -/
  fault : Option WriteFault

namespace Stream

/-- The first event. -/
def connected : Text := "data: connected\n\n"

/-- The event of a signal. -/
def event (payload : Text) : Text := "data: " ++ payload ++ "\n\n"

/-- The comment that keeps a quiet stream alive. -/
def ping : Text := ": ping\n\n"

/-- Writes an event, or fails. `time` is what the clock shows after it. -/
def write (s : Stream) (t : Text) (time : Float) : Stream :=
  match s.peer.broken with
  | some fault => { s with fault := some fault }
  | none => { s with written := s.written ++ [t], lastWrite := time }

/-- The stream after a wait, before anything is written, and the signal that the wait brought. -/
def wait (s : Stream) (t : Turn) : Stream × Option Text :=
  let (registry, payload) := (s.registry.afterAll t.deeds).take s.id
  ({ s with
      registry := registry
      peer := s.peer.after t.toChange
      closing := s.closing || t.closing
      clock := t.now
      polls := s.polls + 1 }, payload)

/-- Whether nothing was written for as long as a quiet stream may last. -/
def isQuiet (keepAlive : Float) (s : Stream) : Bool := keepAlive ≤ s.clock - s.lastWrite

/-- Whether the loop ends before its next turn. -/
def isOver (s : Stream) : Bool := s.closing || s.left || s.fault.isSome

/-- One turn: a wait, and what is written after it. -/
def turn (keepAlive : Float) (s : Stream) (t : Turn) : Stream :=
  match s.wait t with
  | (s, some payload) => s.write (event payload) t.afterWrite
  | (s, none) =>
      if s.peer.gone then { s with left := true }
      else if s.isQuiet keepAlive then s.write ping t.afterWrite
      else s

/-- Takes its turns until the stream is over. After the last turn the server is closing. -/
def follow (keepAlive : Float) : Stream → List Turn → Stream
  | s, [] => { s with closing := true }
  | s, t :: rest => if s.isOver then s else follow keepAlive (s.turn keepAlive t) rest

/-- The stream of a registered handle, when the head is written. -/
def opened (registry : Broadcaster) (id : Nat) (time : Float) (peer : Peer) (closing : Bool) :
    Stream :=
  ⟨registry, id, peer, closing, time, time, [], 0, false, none⟩

/-- A whole stream: its handle is registered first and forgotten at last, however it ends. `late` is
    what others do in the registry between the end and that. -/
def attend (b : Broadcaster) (keepAlive time : Float) (peer : Peer) (closing : Bool)
    (turns : List Turn) (late : List Deed) : Stream :=
  let (registry, id) := b.connect
  let s := follow keepAlive ((opened registry id time peer closing).write connected time) turns
  { s with registry := (s.registry.afterAll late).disconnect id }

/-- The notes of a client's stream. -/
def notes (id : Nat) : List Entry :=
  [.debug 2 ("Live-reload client " ++ Text.ofNat id ++ " connected"),
    .debug 2 ("Live-reload client " ++ Text.ofNat id ++ " disconnected")]

/-- The fault that the stream passes on: a peer that has gone is no fault. -/
def passedOn (s : Stream) : Option WriteFault := s.fault.filter fun f => !f.isPeerGone

end Stream

/-! ## Scripts -/

/-- A wait as a script tells it. -/
structure Poll extends Change where
  signal : Option Text := none
  /-- Seconds that pass. -/
  time : Float := 0.0

namespace Poll

/-- The last wait: the server is closing. -/
def last : Poll := { closing := true }

/-- The turns that a script tells, on a clock that stands still otherwise. A signal is one that is
    offered to the stream's handle. -/
def turns (id : Nat) (clock : Float) : List Poll → List Turn
  | [] => []
  | p :: rest =>
      { p.toChange with
        deeds := (p.signal.map fun payload => Deed.offer id payload).toList
        now := clock + p.time
        afterWrite := clock + p.time } :: turns id (clock + p.time) rest

end Poll

namespace Stream

/-- Serves a stream as a script tells it: the registry afterwards, the handle, and the stream. -/
def serve (b : Broadcaster) (keepAlive : Float) (peer : Peer) (closing : Bool)
    (polls : List Poll) : Broadcaster × Nat × Stream :=
  let id := b.connect.2
  let s := attend b keepAlive 1000.0 peer closing (Poll.turns id 1000.0 (polls ++ [.last])) []
  (s.registry, id, s)

end Stream
end LiveReload
end PageLoom
