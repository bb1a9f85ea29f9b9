import PageLoom.Decimal.Quantity
import PageLoom.FileTree
import PageLoom.PageError
import PageLoom.Watch.Debouncer

set_option autoImplicit false

/-! # Watching a site

A watcher registers the root and every directory that is below it when it starts, each on its own;
a link to a directory is registered, but what it leads to is not entered. It holds the observer that
was started last; an observer is numbered, so that the calls show which of them was stopped. -/

namespace PageLoom
namespace Watch

/-- What is asked of an observer. -/
inductive ObserverCall where
  | schedule (observer : Nat) (directory : Text) (recursive : Bool)
  | start (observer : Nat)
  | stop (observer : Nat)
  /-- Waits for the observer to end. -/
  | join (observer : Nat) (limit : Quantity)

/-- How the observers that the system provides behave. -/
structure ObserverTemper where
  /-- The links to directories that stand among the files. -/
  links : List Location := []
  /-- Why a directory cannot be registered, if it cannot. -/
  refusal? : Text → Option Text
  /-- Why an observer does not start, if it does not. -/
  failure? : Option Text

/-- Why a watcher does not start. -/
inductive WatchFault where
  | failed (report : Text)
  /-- Whether the root is a directory cannot be found out. -/
  | lookup (fault : FileFault)
  deriving DecidableEq, Repr

/-- A watcher of one directory. -/
structure Watcher where
  root : Text
  /-- The observer that is held. -/
  held : Option Nat
  /-- How many observers were made. -/
  made : Nat
  /-- The registered directories, in order of registration. -/
  watched : List Text
  deriving DecidableEq, Repr

/-- What a call did. -/
structure WatcherTrace where
  calls : List ObserverCall
  notes : List Entry

namespace Watcher

/-- A watcher that was not started. -/
def ofRoot (root : Text) : Watcher := ⟨SitePath.tidy root, none, 0, []⟩

/-- Whether an observer is held. -/
def running (w : Watcher) : Bool := w.held.isSome

/-- The names of the directories in a directory, and of the links to directories. -/
def listedIn (tree : FileTree) (temper : ObserverTemper) (directory : Location) : List Text :=
  Text.sort (tree.directoriesIn directory ++ temper.links.filterMap (FileTree.nameIn? directory))

/-- The path of what stands below the root. -/
def pathOf (w : Watcher) (names : List Text) : Text :=
  SitePath.child w.root (SitePath.ofSegments names)

/-- The directories below the root, as names from there: all that stand directly there first, then
    those inside each of them in turn. A directory that cannot be listed has none. -/
def below (tree : FileTree) (temper : ObserverTemper) (w : Watcher) (root : Location) :
    List (List Text) :=
  go [] (tree.nodes.length + 1)
where
  go (names : List Text) : Nat → List (List Text)
    | 0 => []
    | fuel + 1 =>
        if tree.isListed (w.pathOf names) then
          (listedIn tree temper (root ++ names)).map (fun name => names ++ [name]) ++
            (tree.directoriesIn (root ++ names)).flatMap fun name => go (names ++ [name]) fuel
        else []

/-- The root and every directory below it. -/
def directories (tree : FileTree) (temper : ObserverTemper) (w : Watcher) : List Text :=
  w.root :: match tree.locate w.root with
    | .ok root => (below tree temper w root).map w.pathOf
    | .error _ => []

/-- Registers directories, passing over those that are refused. -/
def scheduleAll (temper : ObserverTemper) (observer : Nat) : List Text → List Text × WatcherTrace
  | [] => ([], ⟨[], []⟩)
  | d :: rest =>
      let (taken, trace) := scheduleAll temper observer rest
      let calls := .schedule observer d false :: trace.calls
      match temper.refusal? d with
      | some reason =>
          (taken, ⟨calls, .warning ("Watcher error: cannot watch " ++ d ++ ": " ++ reason) ::
            trace.notes⟩)
      | none => (d :: taken, ⟨calls, trace.notes⟩)

/-- What a start notes. -/
def startNote (w : Watcher) : Entry :=
  .debug 2 ("Watching " ++ Text.ofNat w.watched.length ++ " directories under " ++ w.root)

/-- Starts a new observer. The directories that were registered stay listed when it does not
    start. -/
def start (tree : FileTree) (temper : ObserverTemper) (w : Watcher) :
    Watcher × WatcherTrace × Except WatchFault Unit :=
  match tree.isDirectory w.root with
  | .error fault => (w, ⟨[], []⟩, .error (.lookup fault))
  | .ok false => (w, ⟨[], []⟩, .error (.failed ("watch root is not a directory: " ++ w.root)))
  | .ok true =>
      let observer := w.made
      let w := { w with made := w.made + 1 }
      match temper.refusal? w.root with
      | some reason =>
          (w, ⟨[.schedule observer w.root false], []⟩,
            .error (.failed ("failed to watch " ++ w.root ++ ": " ++ reason)))
      | none =>
          let (taken, trace) := scheduleAll temper observer (w.directories tree temper)
          let calls := trace.calls ++ [.start observer]
          let w := { w with watched := w.watched ++ taken }
          match temper.failure? with
          | some reason =>
              (w, ⟨calls, trace.notes⟩, .error (.failed ("failed to start watcher: " ++ reason)))
          | none =>
              ({ w with held := some observer }, ⟨calls, trace.notes ++ [w.startNote]⟩, .ok ())

/-- Stops the observer that is held and waits for its end. -/
def stop (w : Watcher) (limit : Quantity) : Watcher × List ObserverCall :=
  ({ w with held := none, watched := [] }, match w.held with
    | some observer => [.stop observer, .join observer limit]
    | none => [])

end Watcher
end Watch
end PageLoom
