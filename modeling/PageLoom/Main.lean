import PageLoom.Command.Run
import PageLoom.Manifest.Schema
import PageLoom.ProjectConfig.Schema
import PageLoom.Script.Host
import PageLoom.Settings.VariableFile
import PageLoom.Text.Case

set_option autoImplicit false

/-! # The program

The command on the real file system: the files at hand are read, the command is run on them, and
what it changed is written back. There is no package runner and no listener here, so that only
builds without a bundler come to an end. -/

namespace PageLoom

/-- Adds what stands in a directory to a tree. Installed packages are passed over. -/
partial def loadEntries (tree : FileTree) (l : Location) (entries : Array IO.FS.DirEntry) :
    IO FileTree :=
  entries.foldlM (fun tree entry => do
    let l := l ++ [entry.fileName.toList]
    if ← entry.path.isDir then
      let tree := tree.put l .directory
      if entry.fileName = "node_modules" then return tree
      loadEntries tree l (← entry.path.readDir)
    else
      let octets ← try IO.FS.readBinFile entry.path catch _ => pure ByteArray.empty
      return tree.put l (.file octets.toList)) tree

/-- The tree with the directories down to a location. -/
def withDirectories (tree : FileTree) (l : Location) : FileTree :=
  (List.range l.length).foldl (fun tree n =>
    let k := l.take (n + 1)
    if (tree.node? k).isSome then tree else tree.put k .directory) tree

/-- The files below the working directory, and those that the arguments name. -/
def loadTree (arguments : List String) : IO FileTree := do
  let cwd ← IO.currentDir
  let l := SitePath.parts cwd.toString.toList
  let tree ← loadEntries (withDirectories { nodes := [], cwd := l } l) l (← cwd.readDir)
  arguments.foldlM (fun tree (argument : String) => do
    let found ← try some <$> IO.FS.realPath argument catch _ => pure none
    match found with
    | none => return tree
    | some path =>
        let k := SitePath.parts path.toString.toList
        if (tree.node? k).isSome ∨ ¬ (← path.isDir) then return tree
        else loadEntries (withDirectories tree k) k (← path.readDir)) tree

/-- Writes what is new or different. -/
def storeTree (old new : FileTree) : IO Unit := do
  for (l, node) in new.nodes do
    if old.node? l ≠ some node then
      let path := String.ofList (FileTree.pathOf l)
      match node with
      | .directory => IO.FS.createDirAll path
      | .file octets => IO.FS.writeBinFile path ⟨octets.toArray⟩

/-- The settings of the environment and of the variable file. -/
def loadSettings (tree : FileTree) : IO (Except Settings.Fault Settings) := do
  let mut environment : List (Text × Text) := []
  for (name, _) in Settings.fields do
    let key := Settings.variablePrefix ++ name
    if let some value ← IO.getEnv (String.ofList (Text.upper key)) then
      environment := environment ++ [(key, value.toList)]
  let file := match tree.read ".env" with
    | .ok octets => Utf8.decodeLossy octets
    | .error _ => []
  return Settings.ofVariables environment (VariableFile.read (Text.unifyLineEnds file))

/-- Sessions as engines, JSON manifests and YAML configurations. -/
def standardTools : Command.Tools where
  host := Script.Session.host
  manifests := Manifest.jsonReader
  configs := ProjectConfig.yamlReader

end PageLoom

open PageLoom in
/-- Runs the command. -/
def main (arguments : List String) : IO UInt32 := do
  let tree ← loadTree arguments
  match ← loadSettings tree with
  | .error fault =>
      IO.eprintln (String.ofList fault.message)
      return 1
  | .ok settings =>
      let npm : Npm := ⟨true, [], []⟩
      let world : Command.RunWorld :=
        ⟨settings, ⟨tree, npm, [], []⟩, some "[Errno 95] Operation not supported", []⟩
      let (outcome, world, notes) := Command.run standardTools world (arguments.map String.toList)
      storeTree tree world.work.tree
      for e in notes do IO.eprintln (String.ofList e.line)
      match outcome with
      | .exit code printed errors =>
          IO.print (String.ofList printed)
          IO.eprint (String.ofList errors)
          return code.toUInt32
      | .fault (.exit report) => IO.eprintln (String.ofList report); return 1
      | .fault (.config fault) => IO.eprintln (String.ofList fault.message); return 1
      | .fault (.work fault) => IO.eprintln (String.ofList fault.message); return 1
