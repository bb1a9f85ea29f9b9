import PageLoom.Script.Evaluation
import PageLoom.Script.Reader

set_option autoImplicit false

/-! # Sessions

A session runs scripts one after the other in one world: names that one script declares are seen by
all later ones. It keeps the lists of stylesheets and of scripts that the scripts asked for, in
the order of the calls, and shows the value of a script as the text that stands on the page. -/

namespace PageLoom
namespace Script

/-- Why a session gives no answer. -/
inductive Fault where
  /-- The session was closed before. -/
  | closed
  /-- A script with a null character is refused before anything runs. -/
  | nullCharacter
  /-- The script could not be read, or it stopped: what the engine reports. -/
  | stopped (report : Text)
  deriving DecidableEq

namespace Fault

/-- The message of a fault that is not the script's own. -/
def message : Fault → Text
  | .closed => "ScriptRuntime used after close()"
  | .nullCharacter => "embedded null character"
  | .stopped report => report

end Fault

namespace Run

/-- More depth than the steps of any run can use. -/
def depthFor (limits : Limits) : Nat := 16 * limits.steps + 1000000

/-- How functions are called from outside of scripts. -/
def outerCall (limits : Limits) : Caller := callValue (depthFor limits)

/-- Runs a program at the top level; its value is that of its last expression statement. -/
def program (p : Program) : Run Value := do
  if ← refuses p then fail "SyntaxError" []
  let limits := (← getThe World).limits
  setLast .undefined
  let _ ← execList (depthFor limits) (← enterScript p) p.body
  return (← getThe World).last

/-- Text without the lines that tell where an error arose. -/
def dropPlaces (t : Text) : Text :=
  match Text.splitOn '\n' t with
  | [] => []
  | first :: rest => Text.join "\n" (first :: rest.filter (¬ "    at ".toList.isPrefixOf ·))

/-- What is reported for a thrown value: its text, and on the lines below the stack it brings. An
    error's own stack only holds places, which are not reported. -/
def report (call : Caller) (v : Value) : Run Text := do
  match ← attempt (toText call v) with
  | .error _ => return "Failed obtaining QuickJS error string. Concurrency issue?"
  | .ok t =>
      let stack ← match v with
        | .undefined | .null => pure []
        | .object id =>
            match (← object id).kind with
            | .error => pure []
            | _ => do
                match ← attempt (do toText call (← getMember v "stack")) with
                | .ok t => pure t
                | .error _ => pure []
        | _ => pure "undefined".toList
      let visible (t : Text) : Text := t.takeWhile (· ≠ '\x00')
      return dropPlaces (visible t ++ '\n' :: visible stack)

/-- What the page shows for a value: nothing for nothing, texts and numbers as they are, objects in
    their JSON form or else as the host sees them. -/
def pageText (call : Caller) (v : Value) : Run Text := do
  match v with
  | .undefined | .null => return []
  | .text t => return t.takeWhile (· ≠ '\x00')
  | .bool b => return if b then "true" else "false"
  | .number x => return Decimal.writePage x
  | .object _ =>
      match ← attempt (Serial.compact? call v) with
      | .ok (some t) => if t.isEmpty then hostText call v else return t
      | _ => hostText call v

end Run

/-- A session; none of its scripts is running. -/
structure Session where
  world : World
  /-- The stylesheets that scripts asked for. -/
  stylesheets : List Text
  /-- The scripts that scripts asked for. -/
  scripts : List Text
  open_ : Bool

namespace Session

/-- The steps a run may take in that many seconds; without a limit, more than any page takes. -/
def stepsFor : Option Float → Nat
  | none => 1000000000
  | some seconds => 10000 + (2000000 * max 0 seconds).toUInt64.toNat

/-- Adds a function of the host to a world, under a global name. -/
def addHost (name : Text) (action : HostAction) : Run Unit := do
  let f ← Run.alloc ⟨.host action name, some Place.functionProto, []⟩
  BuiltIn.addSlot Place.global name ⟨.object f, true, true, true⟩

/-- A world after a run that is not a script's. -/
def settle (run : Run Unit) (w : World) : World :=
  match run.run w with
  | .ok _ w | .error _ w => w

/-- A new session: scripts may import stylesheets and scripts. -/
def start (timeLimit : Option Float) (memoryLimit : Option Int) : Session where
  world :=
    let limits : Limits := ⟨stepsFor timeLimit, memoryLimit.bind fun n =>
      if n < 0 then none else some n.toNat⟩
    settle (addHost "importJS" .importScript)
      (settle (addHost "importCSS" .importStylesheet) (BuiltIn.world limits))
  stylesheets := []
  scripts := []
  open_ := true

/-- The stylesheets among some effects. -/
def stylesheetsIn (effects : List Effect) : List Text :=
  effects.filterMap fun
    | .stylesheet path => some path
    | _ => none

/-- The scripts among some effects. -/
def scriptsIn (effects : List Effect) : List Text :=
  effects.filterMap fun
    | .script path => some path
    | _ => none

/-- The calls of other host functions among some effects. -/
def callsIn (effects : List Effect) : List (Text × List Text) :=
  effects.filterMap fun
    | .call name arguments => some (name, arguments)
    | _ => none

/-- A world with fresh steps and nothing noted. -/
def refresh (w : World) : World :=
  { w with budget := w.limits.steps, depth := 0, effects := [], last := .undefined }

/-- The report of a stop, and the world after it was asked for. -/
def reportOf (stop : Stop) (w : World) : Text × World :=
  match stop with
  | .interrupted => ("InternalError: interrupted\n", w)
  | .thrown v =>
      let w := { w with budget := w.limits.steps, depth := 0 }
      match (Run.report (Run.outerCall w.limits) v).run w with
      | .ok t w => (t, w)
      | .error _ w => ("InternalError: interrupted\n", w)

/-- One script in a world: what is done with its value, and the world it leaves. -/
def runIn {α : Type} (code : Text) (use : Caller → Value → Run α) (w : World) :
    Except Fault α × World :=
  if code.contains '\x00' then (.error .nullCharacter, w)
  else match read? code with
    | none => (.error (.stopped "SyntaxError\n"), w)
    | some p =>
        match (do use (Run.outerCall w.limits) (← Run.program p)).run w with
        | .ok a w => (.ok a, w)
        | .error stop w =>
            let (text, w) := reportOf stop w
            (.error (.stopped text), w)

/-- One script in a session, and what it did to the host. -/
def perform {α : Type} (code : Text) (use : Caller → Value → Run α) (s : Session) :
    Except Fault α × List Effect × Session :=
  if s.open_ then
    let (result, w) := runIn code use (refresh s.world)
    (result, w.effects,
      { s with
        world := w
        stylesheets := s.stylesheets ++ stylesheetsIn w.effects
        scripts := s.scripts ++ scriptsIn w.effects })
  else (.error .closed, [], s)

/-- Runs declarations for their effect; without any, nothing happens. -/
def declare (code : Text) (s : Session) : Except Fault Unit × List Effect × Session :=
  if code.isEmpty then (.ok (), [], s) else perform code (fun _ _ => return) s

/-- Evaluates an expression to the text the page shows for its value. -/
def evaluate (code : Text) (s : Session) : Except Fault Text × List Effect × Session :=
  perform code Run.pageText s

/-- Adds a function that notes its calls and returns a constant. -/
def register (name : Text) (returns : Value) (s : Session) : Except Fault Unit × Session :=
  if s.open_ then (.ok (), { s with world := settle (addHost name (.note returns)) s.world })
  else (.error .closed, s)

/-- Ends the session. -/
def close (s : Session) : Session := { s with open_ := false }

end Session
end Script
end PageLoom
