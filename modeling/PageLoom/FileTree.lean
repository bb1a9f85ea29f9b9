import PageLoom.Json.Basic
import PageLoom.PageValue
import PageLoom.SitePath
import PageLoom.Text.Utf8

set_option autoImplicit false

/-! # File trees

The directories and files a program sees. Every node is known by its location, the list of the
names from the root down to it. A path is walked name by name, so what stands before the last name
has to be a directory, even in front of `..`; there are no links, so each node has one
location. Besides what stands there or does not, the system has reasons of its own to refuse: names
and paths that are too long, missing permissions, a device that is full or fails. -/

namespace PageLoom

/-- A reason of the system's own to refuse an access: no permission, no space, a device that
    fails. -/
structure Refusal where
  code : Nat
  reason : Text
  deriving DecidableEq, Repr

/-- Why an operation on files fails. -/
inductive FileFault where
  | missing (path : Text)
  | exists (path : Text)
  | notDirectory (path : Text)
  | isDirectory (path : Text)
  /-- The path, or a name in it, is too long. -/
  | nameTooLong (path : Text)
  /-- The path holds a null character, so that it is not even handed to the system. -/
  | nullCharacter (path : Text)
  | refused (r : Refusal) (path : Text)
  /-- A file was to be copied onto itself. -/
  | sameFile (source target : Text)
  deriving DecidableEq, Repr

namespace FileFault

/-- A numbered report about a path. -/
def numbered (code : Nat) (text path : Text) : Text :=
  "[Errno " ++ Text.ofNat code ++ "] " ++ text ++ ": " ++ PageValue.declareText path

/-- A path as it is declared. -/
def declarePath (path : Text) : Text := "PosixPath(" ++ PageValue.declareText path ++ ")"

/-- The report of a failure. -/
def message : FileFault → Text
  | missing path => numbered 2 "No such file or directory" path
  | .exists path => numbered 17 "File exists" path
  | notDirectory path => numbered 20 "Not a directory" path
  | isDirectory path => numbered 21 "Is a directory" path
  | nameTooLong path => numbered 36 "File name too long" path
  | nullCharacter _ => "embedded null byte"
  | refused r path => numbered r.code r.reason path
  | sameFile source target =>
      declarePath source ++ " and " ++ declarePath target ++ " are the same file"

/-- The codes of refusals for want of permission. -/
def permissionCodes : List Nat := [1, 13]

/-- The kind of failure. -/
def kind : FileFault → Text
  | missing _ => "FileNotFoundError"
  | .exists _ => "FileExistsError"
  | notDirectory _ => "NotADirectoryError"
  | isDirectory _ => "IsADirectoryError"
  | nameTooLong _ => "OSError"
  | nullCharacter _ => "ValueError"
  | refused r _ => if permissionCodes.contains r.code then "PermissionError" else "OSError"
  | sameFile .. => "SameFileError"

/-- The codes of refusals that count as if nothing were there: a bad descriptor, too many links. -/
def absenceCodes : List Nat := [9, 40]

/-- Whether a lookup that fails so only finds that nothing is there. -/
def isAbsence : FileFault → Bool
  | missing _ | notDirectory _ | nullCharacter _ => true
  | refused r _ => absenceCodes.contains r.code
  | _ => false

end FileFault

/-- The names from the root down to a node. -/
abbrev Location := List Text

/-- What stands at a location. -/
inductive FileNode where
  | directory
  | file (content : Octets)
  deriving DecidableEq, Repr

/-- What is done at a location. -/
inductive FileAccess where
  /-- A name is looked up in a directory. -/
  | search
  /-- The names in a directory are listed. -/
  | list
  | read
  /-- A file is opened to be written. -/
  | write
  /-- The content of a file is written. -/
  | fill
  /-- A directory is made. -/
  | make
  deriving DecidableEq, Repr

/-- Nodes by location; the root is a directory without being listed. -/
structure FileTree where
  nodes : List (Location × FileNode)
  /-- The working directory, from which relative paths start. -/
  cwd : Location
  /-- What the system refuses. -/
  refusal? : FileAccess → Location → Option Refusal := fun _ _ => none
  /-- How much of a file has been written by the time when the rest is refused. -/
  room : Location → Nat := fun _ => 0

namespace FileTree

/-- The node at a location. -/
def node? (tree : FileTree) (l : Location) : Option FileNode :=
  if l = [] then some .directory else (tree.nodes.find? (·.1 = l)).map (·.2)

/-- Nodes with one more, or with a known one changed. -/
def putNode (l : Location) (n : FileNode) : List (Location × FileNode) → List (Location × FileNode)
  | [] => [(l, n)]
  | (k, old) :: rest => if k = l then (k, n) :: rest else (k, old) :: putNode l n rest

/-- The tree with a node set. -/
def put (tree : FileTree) (l : Location) (n : FileNode) : FileTree :=
  { tree with nodes := putNode l n tree.nodes }

theorem find?_putNode_self (l : Location) (n : FileNode) (nodes : List (Location × FileNode)) :
    (putNode l n nodes).find? (·.1 = l) = some (l, n) := by
  induction nodes with
  | nil => simp [putNode]
  | cons m rest ih =>
      by_cases h : m.1 = l
      · simp [putNode, h]
      · simp [putNode, h, ih]

theorem find?_putNode_of_ne {l k : Location} (h : k ≠ l) (n : FileNode)
    (nodes : List (Location × FileNode)) :
    (putNode l n nodes).find? (·.1 = k) = nodes.find? (·.1 = k) := by
  induction nodes with
  | nil => simp [putNode, Ne.symm h]
  | cons m rest ih =>
      by_cases hm : m.1 = l
      · simp [putNode, hm, Ne.symm h]
      · by_cases hk : m.1 = k
        · subst hk; simp [putNode, h]
        · simp [putNode, hm, hk, ih]

/-- A node that was set is found. -/
theorem node?_put_self {l : Location} (h : l ≠ []) (tree : FileTree) (n : FileNode) :
    (tree.put l n).node? l = some n := by
  simp [node?, put, h, find?_putNode_self]

/-- Setting a node leaves all others as they are. -/
theorem node?_put_of_ne {l k : Location} (h : k ≠ l) (tree : FileTree) (n : FileNode) :
    (tree.put l n).node? k = tree.node? k := by
  simp [node?, put, find?_putNode_of_ne h]

/-! ## Paths -/

/-- The most octets that a name may have. -/
def longestName : Nat := 255

/-- The most octets that a path may have. -/
def longestPath : Nat := 4095

/-- Fails if the system refuses an access. -/
def permit (tree : FileTree) (access : FileAccess) (l : Location) (path : Text) :
    Except FileFault Unit :=
  match tree.refusal? access l with
  | some r => .error (.refused r path)
  | none => .ok ()

/-- Why a name of a path cannot be looked up in a directory, whatever is there. -/
def lookupFault? (tree : FileTree) (path : Text) (directory : Location) (name : Text) :
    Option FileFault :=
  match tree.refusal? .search directory with
  | some r => some (.refused r path)
  | none => if longestName < (Utf8.encode name).length then some (.nameTooLong path) else none

/-- Walks names from a location; only the last name need not stand for anything. -/
def walk (tree : FileTree) (path : Text) (l : Location) : List Text → Except FileFault Location
  | [] => .ok l
  | name :: rest =>
      match tree.lookupFault? path l name with
      | some fault => .error fault
      | none =>
          let next := if name = ['.', '.'] then l.dropLast else l ++ [name]
          if rest.isEmpty then .ok next
          else match tree.node? next with
            | some .directory => walk tree path next rest
            | some (.file _) => .error (.notDirectory path)
            | none => .error (.missing path)

/-- Why a path cannot be walked, whatever is there. -/
def pathFault? (path : Text) : Option FileFault :=
  if (SitePath.tidy path).contains '\u0000' then some (.nullCharacter path)
  else if longestPath < (Utf8.encode (SitePath.tidy path)).length then some (.nameTooLong path)
  else none

/-- The location a path names. -/
def locate (tree : FileTree) (path : Text) : Except FileFault Location :=
  match pathFault? path with
  | some fault => .error fault
  | none =>
      walk tree path (if SitePath.isAbsolute path then [] else tree.cwd) (SitePath.parts path)

/-- The node a path names, if there is one. A lookup fails unless it finds that there is none. -/
def find (tree : FileTree) (path : Text) : Except FileFault (Option FileNode) :=
  match tree.locate path with
  | .ok l => .ok (tree.node? l)
  | .error fault => if fault.isAbsence then .ok none else .error fault

/-- Whether a path names anything. -/
def exists? (tree : FileTree) (path : Text) : Except FileFault Bool :=
  (tree.find path).map (·.isSome)

/-- Whether a path names a directory. -/
def isDirectory (tree : FileTree) (path : Text) : Except FileFault Bool :=
  (tree.find path).map (· = some .directory)

/-- Whether a path names a file. -/
def isFile (tree : FileTree) (path : Text) : Except FileFault Bool :=
  (tree.find path).map fun
    | some (.file _) => true
    | _ => false

/-- Whether the names in a directory can be listed. -/
def isListed (tree : FileTree) (path : Text) : Bool :=
  match tree.locate path with
  | .ok l => (tree.refusal? .list l).isNone
  | .error _ => false

/-- The text of the working directory. -/
def cwdText (tree : FileTree) : Text := '/' :: SitePath.ofSegments tree.cwd

/-- The location of a path when every `..` takes a name back, whether or not anything is
    there. -/
def resolve (tree : FileTree) (path : Text) : Location := SitePath.components tree.cwdText path

/-- A location as an absolute path. -/
def pathOf (l : Location) : Text := '/' :: SitePath.ofSegments l

/-! ## Operations -/

/-- The content of a file. -/
def read (tree : FileTree) (path : Text) : Except FileFault Octets := do
  let l ← tree.locate path
  match tree.node? l with
  | none => throw (.missing path)
  | some n =>
      tree.permit .read l path
      match n with
      | .file content => return content
      | .directory => throw (.isDirectory path)

/-- What stands above a location has to be a directory. -/
def requireAbove (tree : FileTree) (l : Location) (path : Text) : Except FileFault Unit :=
  match tree.node? l.dropLast with
  | some .directory => return
  | some (.file _) => throw (.notDirectory path)
  | none => throw (.missing path)

/-- The location of a file that is opened to be written, new or old. -/
def openFile (tree : FileTree) (path : Text) : Except FileFault Location := do
  let l ← tree.locate path
  if tree.node? l = some .directory then throw (.isDirectory path)
  tree.requireAbove l path
  tree.permit .write l path
  return l

/-- Writes a file, new or old. When its content is refused, a part of it may be there. -/
def write (tree : FileTree) (path : Text) (content : Octets) : FileTree × Except FileFault Unit :=
  match tree.openFile path with
  | .error fault => (tree, .error fault)
  | .ok l =>
      match tree.permit .fill l path with
      | .ok () => (tree.put l (.file content), .ok ())
      | .error fault => (tree.put l (.file (content.take (tree.room l))), .error fault)

/-- Makes one directory. -/
def makeDirectory (tree : FileTree) (path : Text) : Except FileFault FileTree := do
  let l ← tree.locate path
  if (tree.node? l).isSome then throw (.exists path)
  tree.requireAbove l path
  tree.permit .make l path
  return tree.put l .directory

/-- The path one name up. -/
def above (path : Text) : Text :=
  SitePath.tidy (SitePath.root path ++ SitePath.ofSegments (SitePath.parts path).dropLast)

/-- What is left of a failed attempt to make a directory: a directory that is there already is as
    good as a new one. -/
def unlessThere (tree : FileTree) (path : Text) (fault : FileFault) :
    FileTree × Except FileFault Unit :=
  (tree, match tree.isDirectory path with
    | .ok true => .ok ()
    | .ok false => .error fault
    | .error other => .error other)

/-- Makes a directory and all that is missing above it. What was made stays, even if the rest
    fails. -/
def makeDirectories (tree : FileTree) (path : Text) : FileTree × Except FileFault Unit :=
  go tree path ((SitePath.parts path).length + 1)
where
  go (tree : FileTree) (path : Text) : Nat → FileTree × Except FileFault Unit
    | 0 => (tree, .error (.missing path))
    | fuel + 1 =>
        match tree.makeDirectory path with
        | .ok tree => (tree, .ok ())
        | .error (.missing p) =>
            if above path = path then (tree, .error (.missing p))
            else match go tree (above path) fuel with
              | (tree, .error fault) => (tree, .error fault)
              | (tree, .ok ()) =>
                  match tree.makeDirectory path with
                  | .ok tree => (tree, .ok ())
                  | .error (.missing p) => (tree, .error (.missing p))
                  | .error fault => unlessThere tree path fault
        | .error fault => unlessThere tree path fault

/-- Whether two paths name the same file. -/
def isSame (tree : FileTree) (source target : Text) : Bool :=
  match tree.locate source, tree.locate target with
  | .ok s, .ok t => s = t && (tree.node? s).isSome
  | _, _ => false

/-- Copies a file's content; a file is not copied onto itself. -/
def copy (tree : FileTree) (source target : Text) : FileTree × Except FileFault Unit :=
  if tree.isSame source target then (tree, .error (.sameFile source target))
  else match tree.read source with
    | .error fault => (tree, .error fault)
    | .ok content => tree.write target content

/-! ## Listings -/

/-- The name of a node below a directory, if it is directly there. -/
def nameIn? (directory l : Location) : Option Text :=
  if l ≠ [] ∧ l.dropLast = directory then l.getLast? else none

/-- Names directly below a directory whose nodes satisfy a condition, in order. -/
def namesIn (tree : FileTree) (directory : Location) (keep : FileNode → Bool) : List Text :=
  Text.sort (tree.nodes.filterMap fun (l, n) => if keep n then nameIn? directory l else none)

/-- The names of the files of a directory. -/
def filesIn (tree : FileTree) (directory : Location) : List Text :=
  tree.namesIn directory fun
    | .file _ => true
    | .directory => false

/-- The names of the directories of a directory. -/
def directoriesIn (tree : FileTree) (directory : Location) : List Text :=
  tree.namesIn directory (· = .directory)

/-- All files below a directory, as names from there: its own files first, then those of its
    directories one after the other. Of the directories, which are known by their names from there
    too, only those are entered that satisfy a condition. -/
def filesBelow (tree : FileTree) (enter : List Text → Bool) (directory : Location) :
    List (List Text) :=
  go enter directory (tree.nodes.length + 1)
where
  go (enter : List Text → Bool) (directory : Location) : Nat → List (List Text)
    | 0 => []
    | fuel + 1 =>
        if enter [] then
          (tree.filesIn directory).map (fun name => [name]) ++
            (tree.directoriesIn directory).flatMap fun name =>
              (go (fun names => enter (name :: names)) (directory ++ [name]) fuel).map (name :: ·)
        else []

/-- All directories below a directory, as names from there, each before those inside it. -/
def directoriesBelow (tree : FileTree) (directory : Location) : List (List Text) :=
  go directory (tree.nodes.length + 1)
where
  go (directory : Location) : Nat → List (List Text)
    | 0 => []
    | fuel + 1 =>
        (tree.directoriesIn directory).flatMap fun name =>
          [name] :: (go (directory ++ [name]) fuel).map (name :: ·)

/-- What stands at and below a location, by paths from there: every file with its content, and
    every directory that is empty. -/
def contents (tree : FileTree) (l : Location) : List (Text × Option Octets) :=
  match tree.node? l with
  | none => []
  | some (.file c) => [([], some c)]
  | some .directory =>
      ((tree.filesBelow (fun _ => true) l).filterMap fun names =>
        match tree.node? (l ++ names) with
        | some (.file c) => some (SitePath.ofSegments names, some c)
        | _ => none) ++
      ((tree.directoriesBelow l).filter fun names =>
        (tree.namesIn (l ++ names) fun _ => true).isEmpty).map fun names =>
          (SitePath.ofSegments names, none)

end FileTree
end PageLoom
