import PageLoom.FileTree
import PageLoom.Log
import PageLoom.Manifest
import PageLoom.PageError

set_option autoImplicit false

/-! # The package runner

The bundler is driven through a package runner: one command installs the bundler's project, another
one builds the assets. A workspace holds the files such work changes, what the runner answers, and
the notes and commands made so far; both stay when a step fails. -/

namespace PageLoom

/-- How a package runner behaves. -/
structure Npm where
  /-- The runner is not installed. -/
  missing : Bool
  /-- Commands that fail, with their exit codes. -/
  exitCodes : List (Text × Int)
  /-- What a successful build of the bundler writes. -/
  creates : List (Text × Octets)

/-- A command that was given to the runner. -/
structure NpmCommand where
  arguments : List Text
  directory : Text
  deriving DecidableEq, Repr

/-- The whole command. -/
def NpmCommand.text (c : NpmCommand) : Text := Text.join " " ("npm".toList :: c.arguments)

/-- What work on a site goes on. -/
structure Workspace where
  tree : FileTree
  npm : Npm
  commands : List NpmCommand
  notes : List Entry

/-- Why work on a site fails. -/
inductive WorkFault where
  | site (e : SiteError)
  | file (fault : FileFault)
  | manifest (fault : ManifestFault)
  /-- A fault outside of the site, with its report. -/
  | foreign (kind report : Text)
  deriving DecidableEq

/-- The report of a fault. -/
def WorkFault.message : WorkFault → Text
  | .site e => e.report
  | .file fault => fault.message
  | .manifest fault => fault.message
  | .foreign _ report => report

/-- A step of work. -/
abbrev Work := ExceptT WorkFault (StateM Workspace)

namespace Work

/-- Makes a note. -/
def note (e : Entry) : Work Unit := modify fun w => { w with notes := w.notes ++ [e] }

/-- Changes the files. -/
def setTree (tree : FileTree) : Work Unit := modify fun w => { w with tree }

/-- A file operation. What it changed stays changed, even if it fails. -/
def onFiles (operation : FileTree → FileTree × Except FileFault Unit) : Work Unit := do
  let (tree, result) := operation (← get).tree
  setTree tree
  match result with
  | .ok () => return
  | .error fault => throw (.file fault)

/-- Makes a directory and all that is missing above it. -/
def makeDirectories (path : Text) : Work Unit := onFiles (·.makeDirectories path)

end Work

namespace Npm

/-- A runner that does all it is told and writes nothing. -/
def obedient : Npm := ⟨false, [], []⟩

/-- The command that installs a project. -/
def install : List Text := ["install".toList]

/-- The command that builds the assets. -/
def build : List Text := ["run".toList, "build".toList]

/-- Files written, with the directories above them. -/
def writeAll (tree : FileTree) (files : List (Text × Octets)) : FileTree :=
  files.foldl (fun tree (path, content) =>
    let tree := (tree.makeDirectories (FileTree.above path)).1
    (tree.write path content).1) tree

/-- Fails if the runner is not there or the command fails. -/
def requireSuccess (npm : Npm) (words : Text) : Work Unit :=
  if npm.missing then throw (.site (.bundler "npm not found on PATH"))
  else match (npm.exitCodes.find? (·.1 = words)).map (·.2) with
    | some code =>
        if code ≠ 0 then
          throw (.site (.bundler
            ("npm " ++ words ++ " failed with exit code " ++ Text.ofInt code)))
        else return
    | none => return

/-- Runs a command to its end. -/
def run (arguments : List Text) (directory : Text) : Work Unit := do
  let words := Text.join " " arguments
  Work.note (.debug 2 ("Running npm " ++ words ++ " in " ++ directory))
  modify fun w => { w with commands := w.commands ++ [⟨arguments, directory⟩] }
  let npm := (← get).npm
  requireSuccess npm words
  if arguments = build then Work.setTree (writeAll (← get).tree npm.creates)

/-- Installs a bundler's project, unless that was done before. -/
def ensureDependencies (directory : Text) : Work Unit := do
  match (← get).tree.exists? (SitePath.child directory "node_modules") with
  | .ok true => return
  | .ok false =>
      Work.note (.debug 1 "Installing Vite dependencies...")
      run install directory
  | .error fault => throw (.file fault)

/-- Builds the assets into an output directory, which is there afterwards in any case. -/
def bundle (directory dist : Text) : Work Unit := do
  Work.makeDirectories (SitePath.tidy dist)
  run build directory

end Npm
end PageLoom
