import PageLoom.Decimal.Quantity
import PageLoom.FileTree
import PageLoom.Log

set_option autoImplicit false

/-! # The bundler's server process

At most one process of the bundler's server is held at a time. It is started when none is running,
and stopped by asking it to end first and killing it when it has not ended in time. Every process
ever started is kept in the state, so that one can say that none is left behind. -/

namespace PageLoom

/-- How processes are signalled. -/
inductive ProcessSignal where
  | interrupt | kill
  deriving DecidableEq, Repr

/-- How a process takes signals. -/
inductive Temper where
  /-- It ends when asked to. -/
  | obedient
  /-- It ends only when killed. -/
  | stubborn
  /-- It is gone already when it is signalled. -/
  | gone
  /-- It does not end when asked to, and is gone already when it is killed. -/
  | late
  deriving DecidableEq, Repr

/-- What comes of a signal. -/
inductive Reaction where
  | ends
  | goesOn
  /-- There is no such process any more. -/
  | notFound
  deriving DecidableEq, Repr

/-- What comes of a signal to a process that was alive before. Nobody outlives being killed. -/
def Temper.reaction : Temper → ProcessSignal → Reaction
  | obedient, _ => .ends
  | stubborn, .interrupt => .goesOn
  | stubborn, .kill => .ends
  | gone, _ => .notFound
  | late, .interrupt => .goesOn
  | late, .kill => .notFound

/-- A process. -/
structure DevProcess where
  alive : Bool
  temper : Temper
  deriving DecidableEq, Repr

/-- A process that was signalled. That it is not found is no fault: it has ended by itself. -/
def DevProcess.signalled (p : DevProcess) (which : ProcessSignal) : DevProcess :=
  { p with alive := p.alive && p.temper.reaction which = .goesOn }

/-- What is done with the system's processes. -/
inductive ProcessCall where
  | spawn (directory : Text) (ownGroup : Bool)
  | sleep (time : Quantity)
  /-- A signal for the process and all it started. -/
  | signalGroup (signal : ProcessSignal)
  /-- A signal for the process alone. -/
  | signalOne (signal : ProcessSignal)
  | wait (limit : Option Quantity)

/-- The bundler's server. -/
structure DevServerProcess where
  directory : Text
  /-- The time a new process is given to come up. -/
  startupWait : Quantity
  /-- Whether processes form groups that can be signalled as one. -/
  groups : Bool
  /-- Every process ever started. -/
  processes : List DevProcess
  /-- The place of the process that is held. -/
  held : Option Nat

/-- What a step did, and what it noted. -/
structure ProcessTrace where
  calls : List ProcessCall
  notes : List Entry
  /-- The process that is signalled and waited for. -/
  process : Option Nat := none

/-- The number the first process gets. -/
def processNumber : Nat := 4242

namespace DevServerProcess

/-- A server of which no process was started. -/
def idle (directory : Text) (startupWait : Quantity) (groups : Bool) : DevServerProcess :=
  ⟨directory, startupWait, groups, [], none⟩

/-- Whether a process is alive. -/
def isAlive (s : DevServerProcess) (i : Nat) : Bool := s.processes[i]?.any (·.alive)

/-- The process that is held, if it is alive. -/
def live? (s : DevServerProcess) : Option Nat := s.held.filter s.isAlive

/-- Whether a process is running. -/
def running (s : DevServerProcess) : Bool := s.live?.isSome

/-- The processes with one of them changed. -/
def modify (s : DevServerProcess) (i : Nat) (f : DevProcess → DevProcess) : DevServerProcess :=
  { s with processes := s.processes.modify i f }

/-- A process ends by itself. -/
def ended (i : Nat) (s : DevServerProcess) : DevServerProcess :=
  s.modify i fun p => { p with alive := false }

/-- The process that is held ends by itself. -/
def exit (s : DevServerProcess) : DevServerProcess :=
  match s.held with
  | some i => s.ended i
  | none => s

/-- Lets go of the process that is held. -/
def release (s : DevServerProcess) : DevServerProcess := { s with held := none }

/-- What a start says when nothing can be started. -/
def spawnReport : Text :=
  "failed to start vite dev server: " ++ (FileFault.missing "npm").message

/-- Starts a process, unless one is running. `temper` is how the new one will take signals; without
    one, nothing can be started. -/
def start (temper : Option Temper) (s : DevServerProcess) :
    DevServerProcess × ProcessTrace × Except Text Unit :=
  if s.running then (s, ⟨[], [], none⟩, .ok ())
  else
    let spawn := ProcessCall.spawn s.directory s.groups
    match temper with
    | none => (s, ⟨[spawn], [], none⟩, .error spawnReport)
    | some temper =>
        ({ s with processes := s.processes ++ [⟨true, temper⟩], held := some s.processes.length },
          ⟨spawn :: (if s.startupWait.isPositive then [.sleep s.startupWait] else []),
            [.debug 2 ("Started Vite dev server (pid " ++ Text.ofNat processNumber ++ ")")], none⟩,
          .ok ())

/-- A signal, to the group where there are groups. -/
def signal (s : DevServerProcess) (which : ProcessSignal) : ProcessCall :=
  if s.groups then .signalGroup which else .signalOne which

/-- Signals a process. -/
def signalled (s : DevServerProcess) (i : Nat) (which : ProcessSignal) : DevServerProcess :=
  s.modify i (·.signalled which)

/-- Lets go of the process, and ends it if it is alive: asked to end, it has `grace`, and is killed
    after that. -/
def stop (grace : Quantity) (s : DevServerProcess) : DevServerProcess × ProcessTrace :=
  match s.live? with
  | none => (s.release, ⟨[], [], none⟩)
  | some i =>
      let s := s.release.signalled i .interrupt
      let asked := [s.signal .interrupt, .wait (some grace)]
      if s.isAlive i then
        (s.signalled i .kill, ⟨asked ++ [s.signal .kill, .wait none],
          [.warning "Vite dev server did not exit in time, killing it"], some i⟩)
      else (s, ⟨asked, [.debug 2 "Vite dev server stopped"], some i⟩)

end DevServerProcess
end PageLoom
