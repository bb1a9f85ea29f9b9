import PageLoom.Text.Basic

set_option autoImplicit false

/-! # Errors

Why a page cannot be compiled, and the other failures of a build: each with the facts that a report
needs, one function for its wording, and for an unclosed marker an excerpt of the text with a caret
under the opening brace. -/

namespace PageLoom

/-- What kind of page failure it is. -/
inductive PageError.Kind where
  /-- The page cannot be read or fails for a reason outside its text. -/
  | general
  /-- A marker is not closed; `position` is the offset of its opening brace in `source`. -/
  | unclosed (position : Option Int) (source : Text)
  /-- The declarations script failed. -/
  | declarations
  /-- The script of one expression failed. -/
  | expression (raw : Text)
  deriving DecidableEq, Repr

/-- A page that cannot be compiled. -/
structure PageError where
  kind : PageError.Kind
  message : Text
  /-- The template, when it is known. -/
  file : Option Text
  deriving DecidableEq, Repr

namespace PageError

/-- The error without knowledge of the template. -/
def unnamed (kind : Kind) (message : Text) : PageError := ⟨kind, message, none⟩

/-- The error with the template's path, unless it has one already. -/
def inFile (file : Text) (e : PageError) : PageError :=
  { e with file := some (e.file.getD file) }

/-- The declarations block of `source` opens at `position` and never closes. -/
def unclosedDeclarations (position : Nat) (source : Text) : PageError :=
  unnamed (.unclosed (some position) source) "unclosed declarations block"

/-- The marker of `body` at `position` never closes. -/
def unclosedExpression (position : Nat) (body : Text) : PageError :=
  unnamed (.unclosed (some position) body)
    ("unclosed expression starting at position " ++ Text.ofNat position)

/-- The declarations script failed for the given reason. -/
def failedDeclarations (reason : Text) : PageError :=
  unnamed .declarations ("error executing declarations: " ++ reason)

/-- The script of an expression failed for the given reason. -/
def failedExpression (raw reason : Text) : PageError :=
  unnamed (.expression raw) ("error evaluating expression '" ++ raw ++ "': " ++ reason)

/-- The template could not be read for the given reason. -/
def unreadable (file reason : Text) : PageError :=
  ⟨.general, "failed to read file: " ++ reason, some file⟩

/-- The one-line report: file, message and, for an unclosed marker, its position. An empty file
    name counts as none. -/
def report (e : PageError) : Text :=
  let named := match e.file with
    | some file => if file.isEmpty then e.message else file ++ ": " ++ e.message
    | none => e.message
  match e.kind with
  | .unclosed (some position) _ => named ++ " (position " ++ Text.ofInt position ++ ")"
  | _ => named

/-- The characters from `start` up to `stop`, where a negative `stop` counts from the end. -/
def excerpt (source : Text) (start : Nat) (stop : Int) : Text :=
  let stop := if 0 ≤ stop then stop.toNat else (source.length + stop).toNat
  Text.slice source start stop

/-- Two lines around the position of an unclosed marker: the characters near it, line feeds shown
    as spaces, and a caret under the position. Empty without a position or without a text. -/
def context (width : Int) (e : PageError) : Text :=
  match e.kind with
  | .unclosed (some position) source =>
      if source.isEmpty then []
      else
        let start := (position - width).toNat
        let stop := min (source.length : Int) (position + width)
        let shown := (excerpt source start stop).map fun c => if c = '\n' then ' ' else c
        "Context: ..." ++ shown ++ "...\n" ++ "         " ++
          List.replicate (position - start + 3).toNat ' ' ++ "^"
  | _ => []

/-- Characters shown on either side of the position, unless asked otherwise. -/
def contextWidth : Int := 40

end PageError

/-- A failure of a build, a server or a tool around them. -/
inductive SiteError where
  | page (e : PageError)
  | manifest (message : Text)
  | watcher (message : Text)
  | bundler (message : Text)
  /-- A file of the site failed; its path is relative to the site. -/
  | build (relPath message : Text)
  | other (message : Text)
  deriving DecidableEq, Repr

/-- The one-line report of a failure. -/
def SiteError.report : SiteError → Text
  | .page e => e.report
  | .manifest message | .watcher message | .bundler message | .other message => message
  | .build relPath message =>
      if relPath.isEmpty then message else relPath ++ ": " ++ message

end PageLoom
