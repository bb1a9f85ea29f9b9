import PageLoom.Bundler.Npm
import PageLoom.Command.Line
import PageLoom.ProjectConfig
import PageLoom.Site.Build

set_option autoImplicit false

/-! # The state of a run

A run of the command is a sequence of stages. Each takes the state the stage before it left and
hands its own on; the first that fails ends the run. -/

namespace PageLoom
namespace Command

/-- What is known about a run. -/
structure RunState where
  inputDir : Text
  outputDir : Text
  verbosity : Int := 1
  serve : Bool := false
  port : Option Int := none
  /-- The bundler's project, as the command line names it. -/
  bundlerOption : Option Text := none
  noBundler : Bool := false
  configFile : Option Text := none
  /-- Whether directories, port and addresses were settled. -/
  ready : Bool := false
  site : Text := "."
  dist : Text := "."
  /-- The bundler's project, if it takes part. -/
  bundlerDir : Option Text := none
  devPort : Int := 0
  bundlerUrl : Text := []
  report : Option BuildReport := none
  /-- Whether a server ran and was shut down. -/
  served : Bool := false
  deriving DecidableEq

/-- The state at the start of a run. -/
def RunState.ofLine (l : Line) : RunState where
  inputDir := l.inputDir
  outputDir := l.outputDir
  verbosity := l.verbosity
  serve := l.serve
  port := l.port
  bundlerOption := l.bundlerDir
  noBundler := l.noBundler
  configFile := l.configFile

/-- A server that was asked for. -/
structure ServerOrder where
  site : Text
  bundlerDir : Option Text
  host : Text
  port : Int
  bundlerUrl : Text
  deriving DecidableEq, Repr

/-- What a run makes use of, whoever provides it. -/
structure Tools where
  host : EngineHost
  manifests : Manifest.Reader
  configs : ProjectConfig.Reader

/-- What a run works on. -/
structure RunWorld where
  settings : Settings
  work : Workspace
  /-- Why no server can be started, if none can. -/
  serverFailure : Option Text
  /-- The servers asked for so far. -/
  servers : List ServerOrder

/-- How a run ends before its last stage. -/
inductive RunFault where
  /-- A failure with its report to the user. -/
  | exit (report : Text)
  /-- The configuration could not be had, for a reason that is not its own. -/
  | config (fault : ProjectConfig.Fault)
  | work (fault : WorkFault)

/-- A part of a run. -/
abbrev Run := ExceptT RunFault (StateM RunWorld)

namespace Run

/-- Makes a note. -/
def note (e : Entry) : Run Unit :=
  modify fun w => { w with work := { w.work with notes := w.work.notes ++ [e] } }

/-- The files as they are now. -/
def tree : Run FileTree := do return (← get).work.tree

/-- Looks something up in the files. -/
def lookUp {α : Type} (question : FileTree → Except FileFault α) : Run α := do
  match question (← tree) with
  | .ok answer => return answer
  | .error fault => throw (.work (.file fault))

/-- Does work on the site. -/
def doWork {α : Type} (m : Work α) : Run (Except WorkFault α) := do
  let world ← get
  let (result, work) := m.run.run world.work
  set { world with work }
  return result

/-- Runs stages one after the other. -/
def stages {σ : Type} {m : Type → Type} [Monad m] (list : List (σ → m σ)) (s : σ) : m σ :=
  list.foldlM (fun s stage => stage s) s

end Run
end Command
end PageLoom
