import PageLoom.Command.Stage

set_option autoImplicit false

/-! # The command

The command line is read, the output directory is made, the input directory is required, and then
the stages run. What reaches the user is what was printed, what was reported as an error, the notes
that the verbosity shows, and the exit code. -/

namespace PageLoom
namespace Command

/-- The name and the version of the command. -/
def commandName : Text := "vaayu"

/-- What the command prints when it is asked for its version. -/
def versionLine : Text := commandName ++ " 1.0.0\n"

/-- What the command prints when it is asked for help. -/
def helpText : Text :=
  "usage: " ++ commandName ++ " [options] inputdir outputdir\n\n" ++
  "Compiles templates to static pages, or serves them with live reload.\n\noptions: " ++
  Text.join ", " (Switch.spellings.map Prod.fst) ++ "\n"

/-- How a run of the command ended. -/
inductive Outcome where
  /-- An exit code, with what was printed and what was reported as an error. -/
  | exit (code : Nat) (printed errors : Text)
  /-- A fault that no stage takes care of. -/
  | fault (f : RunFault)

/-- How the command ends when the command line does not lead to a run. -/
def Outcome.ofLineEnd : LineEnd → Outcome
  | .help => .exit 0 helpText []
  | .version => .exit 0 versionLine []
  | .fault f => .exit 2 [] (commandName ++ ": error: " ++ f.message ++ "\n")

/-- How the command ends when its stages do. -/
def Outcome.ofResult {α : Type} : Except RunFault α → Outcome
  | .ok _ => .exit 0 [] []
  | .error (.exit report) => .exit 1 [] (report ++ "\n")
  | .error f => .fault f

/-- Ends the run because a path is no directory. -/
def noDirectory (path : Text) : Run Unit := throw (.exit ("Not a directory: " ++ path))

/-- Makes the output directory and requires the input directory. -/
def prepareDirectories (l : Line) : Run Unit := do
  if ← Run.lookUp (·.exists? l.outputDir) then
    unless ← Run.lookUp (·.isDirectory l.outputDir) do noDirectory l.outputDir
  else match ← Run.doWork (Work.makeDirectories l.outputDir) with
    | .ok () => pure ()
    | .error fault => throw (.work fault)
  unless ← Run.lookUp (·.isDirectory l.inputDir) do noDirectory l.inputDir

/-- Runs the command that a command line asks for. -/
def runLine (tools : Tools) (l : Line) : Run RunState := do
  prepareDirectories l
  Run.stages (Stage.all tools) (RunState.ofLine l)

/-- Runs the command: how it ended, what it worked on, and the notes that are shown. -/
def run (tools : Tools) (world : RunWorld) (arguments : List Text) :
    Outcome × RunWorld × List Entry :=
  match Line.read arguments with
  | .error e => (.ofLineEnd e, world, [])
  | .ok l =>
      let (result, world) := (runLine tools l).run.run world
      (.ofResult result, world, shownEntries l.verbosity world.work.notes)

end Command
end PageLoom
