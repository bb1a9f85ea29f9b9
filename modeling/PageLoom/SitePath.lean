import PageLoom.Text.Basic

set_option autoImplicit false

/-! # Paths

A path is a text with `/` between its segments. `normalize` resolves `.` and `..` without looking
at a file system; `tidy` only drops empty and `.` segments, which is the form in which paths are
shown. A path that begins with exactly two slashes keeps both. -/

namespace PageLoom
namespace SitePath

/-- The segments between slashes, empty ones included. -/
def segments (p : Text) : List Text := Text.splitOn '/' p

/-- Segments with slashes between them. -/
def ofSegments (segs : List Text) : Text := Text.join "/" segs

/-- Whether the path begins at the root. -/
def isAbsolute (p : Text) : Bool := p.head? = some '/'

/-- The leading slashes that belong to the root: none, one or exactly two. -/
def root (p : Text) : Text :=
  match (p.takeWhile (· = '/')).length with
  | 0 => []
  | 2 => ['/', '/']
  | _ => ['/']

/-- `q` seen from the directory `p`. -/
def join (p q : Text) : Text :=
  if isAbsolute q then q
  else if p.isEmpty ∨ p.getLast? = some '/' then p ++ q
  else p ++ '/' :: q

/-- Everything before the last slash, without the slashes at its end unless nothing else is
    there. -/
def parent (p : Text) : Text :=
  let head := Text.dropEndWhile (· ≠ '/') p
  if head.all (· = '/') then head else Text.dropEndWhile (· = '/') head

/-- Adds a segment to a resolved path, kept in reverse: `..` takes the last proper segment back, and
    at the root it is dropped. -/
def pushSegment (absolute : Bool) (done : List Text) (seg : Text) : List Text :=
  if seg = [] ∨ seg = ['.'] then done
  else if seg ≠ ['.', '.'] then seg :: done
  else match done with
    | [] => if absolute then [] else [seg]
    | last :: earlier => if last = ['.', '.'] then seg :: done else earlier

/-- The segments of a path with `.` and `..` resolved. -/
def resolved (p : Text) : List Text :=
  ((segments p).foldl (pushSegment (isAbsolute p)) []).reverse

/-- The path with `.` and `..` resolved; `.` when nothing is left. -/
def normalize (p : Text) : Text :=
  let text := root p ++ ofSegments (resolved p)
  if text.isEmpty then ['.'] else text

/-- The path as seen from the root, given the working directory. -/
def absolute (cwd p : Text) : Text := normalize (join cwd p)

/-- The non-empty segments of the absolute form. -/
def components (cwd p : Text) : List Text :=
  (segments (absolute cwd p)).filter (¬ ·.isEmpty)

/-- How many segments two lists begin with in common. -/
def commonLength : List Text → List Text → Nat
  | a :: s, b :: t => if a = b then commonLength s t + 1 else 0
  | _, _ => 0

/-- The path from the directory `start` to `p`. -/
def relative (cwd p start : Text) : Text :=
  let from_ := components cwd start
  let target := components cwd p
  let shared := commonLength from_ target
  let steps := List.replicate (from_.length - shared) ['.', '.'] ++ target.drop shared
  if steps.isEmpty then ['.'] else ofSegments steps

/-- The segments that are neither empty nor `.`. -/
def parts (p : Text) : List Text := (segments p).filter fun s => s ≠ [] ∧ s ≠ ['.']

/-- The path as it is shown: no empty or `.` segments, and `.` for the empty path. -/
def tidy (p : Text) : Text :=
  let text := root p ++ ofSegments (parts p)
  if text.isEmpty then ['.'] else text

/-- `q` below the directory `p`, as it is shown. -/
def child (p q : Text) : Text := tidy (join p q)

/-- The last segment. -/
def name (p : Text) : Text := (parts p).getLast?.getD []

/-- The end of a file name from its last dot on; none when the dot is its first or last
    character. -/
def suffix (p : Text) : Text :=
  match Text.splitLast? '.' (name p) with
  | some (before, after) => if before.isEmpty ∨ after.isEmpty then [] else '.' :: after
  | none => []

/-- An asset path that begins with `./` or `../`. -/
def isFileRelative (p : Text) : Bool :=
  (['.', '/'] : Text).isPrefixOf p || (['.', '.', '/'] : Text).isPrefixOf p

/-- An asset path of a template, seen from the site's directory. -/
def relativize (cwd path file site : Text) : Text :=
  tidy (relative cwd (normalize (join (parent file) path)) site)

end SitePath
end PageLoom
