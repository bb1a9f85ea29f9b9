import PageLoom.Marker

set_option autoImplicit false

/-! # Regions of a template

A template is markup outside its markers and script inside them. The lexer of templates cuts the
source at the markers that the scan closes, hands each piece to the lexer of its language and moves
the lexemes to their place. A marker that never closes, and all that follows it, is markup. -/

namespace PageLoom
namespace Highlight

/-- A piece of text with its offset and its kind. -/
structure Lexeme (κ : Type) where
  offset : Nat
  kind : κ
  value : Text
  deriving Repr, DecidableEq

/-- A lexer cuts a text into lexemes. -/
abbrev Lexer (κ : Type) := Text → List (Lexeme κ)

/-- The lexemes of a piece that stands at `offset`; an empty piece has none. -/
def lexemesAt {κ : Type} (lexer : Lexer κ) (offset : Nat) (piece : Text) : List (Lexeme κ) :=
  if piece.isEmpty then []
  else (lexer piece).map fun l => { l with offset := l.offset + offset }

/-- The lexer of templates over lexers of markup and script, from `pos` on. `mark` is the kind of
    the doubled braces. -/
def templateFrom {κ : Type} (markup script : Lexer κ) (mark : κ) (text : Text) :
    Nat → Nat → List (Lexeme κ)
  | 0, _ => []
  | fuel + 1, pos =>
      match Text.findFrom? Marker.opening text pos with
      | none => lexemesAt markup pos (text.drop pos)
      | some start =>
          match Marker.close? text (start + 2) with
          | none => lexemesAt markup pos (text.drop pos)
          | some close =>
              lexemesAt markup pos (Text.slice text pos start) ++
                ⟨start, mark, Marker.opening⟩ ::
                  (lexemesAt script (start + 2) (Text.slice text (start + 2) close) ++
                    ⟨close, mark, Marker.closing⟩ ::
                      templateFrom markup script mark text fuel (close + 2))

/-- The lexer of templates. -/
def template {κ : Type} (markup script : Lexer κ) (mark : κ) : Lexer κ := fun text =>
  templateFrom markup script mark text (text.length + 1) 0

/-- The three kinds of region. -/
inductive Region where
  | markup
  | script
  | mark
  deriving DecidableEq, Repr

/-- A lexer that takes its whole text as one lexeme. -/
def whole {κ : Type} (kind : κ) : Lexer κ := fun text => [⟨0, kind, text⟩]

/-- The regions of a template. -/
def regions : Lexer Region := template (whole .markup) (whole .script) .mark

/-- The text that is shown for a source: line ends unified, a byte order mark at the start dropped,
    and a line feed at the end. -/
def shownText (source : Text) : Text :=
  let body := match source with
    | '\uFEFF' :: rest => rest
    | other => other
  let body := Text.unifyLineEnds body
  if body.getLast? = some '\n' then body else body ++ ['\n']

end Highlight
end PageLoom
