import PageLoom.Marker
import PageLoom.PageError

set_option autoImplicit false

/-! # Templates

A template is an optional declarations block, the first thing in the source when the source begins
with a marker, and a body with markers. Parsing loses nothing: the body is the gaps between the
markers and the markers, in order. -/

namespace PageLoom

/-- A marker of a body. -/
structure Expression where
  /-- The text between the braces, without the blanks around it. -/
  raw : Text
  /-- Offset of the opening brace in the body. -/
  start : Nat
  /-- Offset one past the closing brace. -/
  stop : Nat
  /-- The whole marker, braces included. -/
  text : Text
  deriving DecidableEq, Repr

/-- A parsed template. -/
structure Template where
  declarations : Text
  body : Text
  /-- The markers of the body, from left to right. -/
  expressions : List Expression
  deriving DecidableEq, Repr

namespace Template

/-- The marker of `body` that opens at `start` and whose closing brace stands at `close`. -/
def expressionAt (body : Text) (start close : Nat) : Expression where
  raw := Text.trim (Text.slice body (start + 2) close)
  start := start
  stop := close + 2
  text := Text.slice body start (close + 2)

/-- The declarations and the body. A block that is never closed is reported at its place in the
    source. -/
def split (source : Text) : Except PageError (Text × Text) :=
  let trimmed := Text.trimStart source
  if Marker.opening.isPrefixOf trimmed then
    match Marker.close? trimmed 2 with
    | none => .error (.unclosedDeclarations (source.length - trimmed.length) source)
    | some close => .ok (Text.trim (Text.slice trimmed 2 close), trimmed.drop (close + 2))
  else .ok ([], source)

/-- The markers of a body that open at or after `pos`. A marker takes at least four characters, so
    the length of the body bounds their number. -/
def expressionsFrom (body : Text) : Nat → Nat → Except PageError (List Expression)
  | 0, _ => .ok []
  | fuel + 1, pos =>
      match Text.findFrom? Marker.opening body pos with
      | none => .ok []
      | some start =>
          match Marker.close? body (start + 2) with
          | none => .error (.unclosedExpression start body)
          | some close =>
              (expressionsFrom body fuel (close + 2)).map (expressionAt body start close :: ·)

/-- The markers of a body. -/
def expressionsIn (body : Text) : Except PageError (List Expression) :=
  expressionsFrom body (body.length + 1) 0

/-- Declarations, body and markers of a source. -/
def parse (source : Text) : Except PageError Template := do
  let (declarations, body) ← split source
  let found ← expressionsIn body
  return ⟨declarations, body, found⟩

/-- What a traced parse notes: the size of the declarations and the number of markers. -/
def summary (t : Template) : Text :=
  "Parsed " ++ Text.ofNat t.declarations.length ++ " chars of declarations, " ++
    Text.ofNat t.expressions.length ++ " expressions"

end Template
end PageLoom
