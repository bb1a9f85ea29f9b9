import PageLoom.Text.Basic

set_option autoImplicit false

/-! # Requests in flight

Every accepted connection is handled on a thread of its own, which counts itself in when it begins
and out when it ends, however it ends. Draining waits until nobody is counted; a thread that has
not begun is not counted yet. -/

namespace PageLoom

/-- How far a connection has come. -/
inductive ConnectionPhase where
  /-- Accepted; its thread has not begun. -/
  | accepted
  /-- Counted in. -/
  | handling
  /-- Counted out. -/
  | handled
  deriving DecidableEq, Repr

/-- The connections of a listener, and its own count of those in flight. -/
structure InFlight where
  accepting : Bool
  connections : List ConnectionPhase
  count : Int
  deriving DecidableEq, Repr

/-- What happens to connections. -/
inductive ConnectionEvent where
  | accept
  /-- The thread of a connection begins. -/
  | begin (connection : Nat)
  /-- The handler of a connection returns. -/
  | finish (connection : Nat)
  /-- The handler of a connection fails. -/
  | fail (connection : Nat)
  /-- No further connection is accepted. -/
  | stopAccepting
  deriving DecidableEq, Repr

namespace InFlight

/-- Before the first connection. -/
def idle : InFlight := ⟨true, [], 0⟩

/-- One event; an event that cannot happen changes nothing. -/
def step (s : InFlight) : ConnectionEvent → InFlight
  | .accept =>
      if s.accepting then { s with connections := s.connections ++ [.accepted] } else s
  | .begin c =>
      if s.connections[c]? = some .accepted then
        { s with connections := s.connections.set c .handling, count := s.count + 1 }
      else s
  | .finish c | .fail c =>
      if s.connections[c]? = some .handling then
        { s with connections := s.connections.set c .handled, count := s.count - 1 }
      else s
  | .stopAccepting => { s with accepting := false }

/-- Events in order. -/
def run (s : InFlight) (events : List ConnectionEvent) : InFlight := events.foldl step s

/-- Whether draining succeeds at once. -/
def drained (s : InFlight) : Bool := s.count = 0

/-- Waits for nobody to be counted: the state in which that was seen, if it was. It is looked at
    first at once, then after each stretch of what happens meanwhile; in between, a moment when
    nobody is counted passes unseen. -/
def drain? (s : InFlight) : List (List ConnectionEvent) → Option InFlight
  | [] => if s.drained then some s else none
  | stretch :: rest => if s.drained then some s else drain? (s.run stretch) rest

/-- Whether every accepted connection was handled. -/
def allHandled (s : InFlight) : Bool := s.connections.all (· = .handled)

end InFlight
end PageLoom
