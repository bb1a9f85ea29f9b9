import PageLoom.Text.Basic

set_option autoImplicit false

/-! # A lock for many readers or one writer

Readers share the lock, a writer has it alone, and readers wait while a writer waits, so that a
stream of readers cannot keep a writer out. A client that cannot enter is blocked until it is
woken, and then looks again; whoever leaves the lock free wakes all blocked clients. -/

namespace PageLoom
namespace LiveReload

/-- Where a client stands. -/
inductive LockPhase where
  /-- Waits to read; `woken` says whether it is about to look again. -/
  | blockedReader (woken : Bool)
  | blockedWriter (woken : Bool)
  | reading
  | writing
  deriving DecidableEq, Repr

namespace LockPhase

/-- Whether a client is inside. -/
def holds : LockPhase → Bool
  | reading | writing => true
  | _ => false

/-- A blocked client is woken. -/
def wake : LockPhase → LockPhase
  | blockedReader _ => blockedReader true
  | blockedWriter _ => blockedWriter true
  | p => p

end LockPhase

/-- The lock's own counts, and its clients. Clients outside of the lock are not listed. -/
structure Lock where
  readers : Nat
  writer : Bool
  /-- Writers that wait. -/
  waiting : Nat
  clients : List (Text × LockPhase)
  deriving DecidableEq, Repr

namespace Lock

/-- Nobody is there. -/
def free : Lock := ⟨0, false, 0, []⟩

/-- Whether a reader may enter. -/
def admitsReader (l : Lock) : Bool := !l.writer && l.waiting = 0

/-- Whether a writer may enter. -/
def admitsWriter (l : Lock) : Bool := !l.writer && l.readers = 0

/-- Where a client stands, if it is there. -/
def phase? (l : Lock) (name : Text) : Option LockPhase :=
  (l.clients.find? fun c => c.1 = name).map Prod.snd

/-- The lock with a client's phase set. -/
def setPhase (l : Lock) (name : Text) (p : LockPhase) : Lock :=
  { l with clients := l.clients.map fun c => if c.1 = name then (name, p) else c }

/-- A client that looks whether it may enter. -/
def look (l : Lock) (name : Text) : LockPhase → Lock
  | .blockedReader _ =>
      if l.admitsReader then { l.setPhase name .reading with readers := l.readers + 1 }
      else l.setPhase name (.blockedReader false)
  | .blockedWriter _ =>
      if l.admitsWriter then
        { l.setPhase name .writing with writer := true, waiting := l.waiting - 1 }
      else l.setPhase name (.blockedWriter false)
  | _ => l

/-- A new client comes to read. -/
def read (l : Lock) (name : Text) : Lock :=
  let p := LockPhase.blockedReader false
  look { l with clients := l.clients ++ [(name, p)] } name p

/-- A new client comes to write. -/
def write (l : Lock) (name : Text) : Lock :=
  let p := LockPhase.blockedWriter false
  look { l with waiting := l.waiting + 1, clients := l.clients ++ [(name, p)] } name p

/-- All blocked clients are woken. -/
def wakeAll (l : Lock) : Lock := { l with clients := l.clients.map fun c => (c.1, c.2.wake) }

/-- A client that is inside leaves; the last reader, and any writer, wakes the others. -/
def leave (l : Lock) (name : Text) : Lock :=
  let l' := { l with clients := l.clients.filter (·.1 ≠ name) }
  match l.phase? name with
  | some .reading =>
      let l' := { l' with readers := l.readers - 1 }
      if l'.readers = 0 then l'.wakeAll else l'
  | some .writing => wakeAll { l' with writer := false }
  | _ => l

/-- A client that was woken looks again. -/
def lookAgain (l : Lock) (name : Text) : Lock :=
  match l.phase? name with
  | some (.blockedReader true) => l.look name (.blockedReader true)
  | some (.blockedWriter true) => l.look name (.blockedWriter true)
  | _ => l

/-- Every woken client looks again. -/
def settle (l : Lock) : Lock := (l.clients.map (·.1)).foldl lookAgain l

/-- The clients inside. -/
def holding (l : Lock) : List Text := (l.clients.filter (·.2.holds)).map (·.1)

/-- The clients that wait. -/
def blocked (l : Lock) : List Text := (l.clients.filter (¬ ·.2.holds)).map (·.1)

end Lock
end LiveReload
end PageLoom
