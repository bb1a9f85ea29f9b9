import PageLoom.Log
import PageLoom.SitePath
import PageLoom.Text.Case

set_option autoImplicit false

/-! # Changes in watched directories

A change is reported with the kind of thing that happened and the paths it happened to. Only files
with a watched extension count; a move counts for the place it ends at, because an editor that
saves by moving a new file over the old one ends at the name that matters. -/

namespace PageLoom
namespace Watch

/-- What happened. -/
inductive ChangeKind where
  | created | modified | deleted | moved
  /-- A file was opened or closed, which is no change. -/
  | opened | closed | closedUnwritten
  deriving DecidableEq, Repr

/-- A reported change. -/
structure Change where
  kind : ChangeKind
  /-- Whether it happened to a directory. -/
  onDirectory : Bool
  source : Text
  /-- Where a move ends. -/
  target : Text
  deriving DecidableEq, Repr

namespace Change

/-- The path that a change counts for, if the change counts at all. -/
def path? (c : Change) : Option Text :=
  if c.onDirectory then none
  else match c.kind with
    | .created | .modified | .deleted => some c.source
    | .moved => some c.target
    | .opened | .closed | .closedUnwritten => none

/-- Whether a path has one of some extensions, in any case. -/
def hasExtension (extensions : List Text) (path : Text) : Bool :=
  (extensions.map Text.lower).contains (Text.lower (SitePath.suffix path))

/-- The path of a change that matters for some extensions. -/
def relevant? (extensions : List Text) (c : Change) : Option Text :=
  c.path?.filter (hasExtension extensions)

/-- What a change that matters notes. -/
def note (path : Text) : Entry := .debug 2 ("File changed: " ++ path)

end Change
end Watch
end PageLoom
