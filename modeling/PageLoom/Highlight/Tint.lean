import PageLoom.Highlight.Region
import PageLoom.Text.Word

set_option autoImplicit false

/-! # Lexemes with tints

The lexers of markup and script cut a text by rules: in a state, a rule takes some pieces off the
front and moves on to other states. Where no rule fits, one character is wrong, or, at a line end,
everything starts anew. Every lexeme has a tint, which decides how it looks. -/

namespace PageLoom
namespace Highlight

/-- How a lexeme looks. -/
inductive Tint where
  | plain
  | blank
  | comment
  | directive
  | entity
  | tag
  | attrName
  | keyword
  /-- An operator that is a word. -/
  | wordOperator
  | operator
  | builtIn
  | errorName
  | number
  | string
  | pattern
  /-- The braces around a hole in a template literal. -/
  | hole
  | wrong
  deriving DecidableEq, Repr

/-- The style of a tint; plain text has none. -/
def Tint.style : Tint → Text
  | plain => []
  | blank => "color: #BBB"
  | comment => "color: #3D7B7B; font-style: italic"
  | directive => "color: #9C6500"
  | entity => "color: #717171; font-weight: bold"
  | tag | keyword => "color: #008000; font-weight: bold"
  | attrName => "color: #687822"
  | wordOperator => "color: #A2F; font-weight: bold"
  | operator | number => "color: #666"
  | builtIn => "color: #008000"
  | errorName => "color: #CB3F38; font-weight: bold"
  | string => "color: #BA2121"
  | pattern => "color: #A45A77"
  | hole => "color: #A45A77; font-weight: bold"
  | wrong => "border: 1px solid #F00"

/-- What a rule does: pieces off the front, each with the lexer of its text, and the states that
    come after. -/
structure Cut (σ : Type) where
  pieces : List (Lexer Tint × Nat)
  states : List σ

/-- A rule looks at the states, innermost first, at the character before the text, and at the
    text. -/
abbrev CutRule (σ : Type) := List σ → Option Char → Text → Option (Cut σ)

namespace Cut

/-- One piece of one tint. -/
def one {σ : Type} (tint : Tint) (length : Nat) (states : List σ) : Cut σ :=
  ⟨[(whole tint, length)], states⟩

/-- The length of all pieces. -/
def length {σ : Type} (c : Cut σ) : Nat := c.pieces.foldr (fun p n => p.2 + n) 0

end Cut

/-- The lexemes of pieces that stand one after the other. -/
def pieceLexemes (offset : Nat) : List (Lexer Tint × Nat) → Text → List (Lexeme Tint)
  | [], _ => []
  | (lexer, n) :: rest, text =>
      lexemesAt lexer offset (text.take n) ++ pieceLexemes (offset + n) rest (text.drop n)

/-- Cuts a text by a rule, from the given states on. -/
def cutText {σ : Type} (rule : CutRule σ) (start : List σ) :
    Nat → Nat → List σ → Option Char → Text → List (Lexeme Tint)
  | _, _, _, _, [] => []
  | 0, offset, _, _, text => [⟨offset, .wrong, text⟩]
  | fuel + 1, offset, states, before, c :: rest =>
      match rule states before (c :: rest) with
      | some cut =>
          let n := min cut.length (rest.length + 1)
          pieceLexemes offset cut.pieces (c :: rest) ++
            cutText rule start fuel (offset + n) cut.states
              (if n = 0 then before else (c :: rest)[n - 1]?) ((c :: rest).drop n)
      | none =>
          let (tint, states) := if c = '\n' then (Tint.blank, start) else (Tint.wrong, states)
          ⟨offset, tint, [c]⟩ :: cutText rule start fuel (offset + 1) states (some c) rest

/-- The lexer of a rule: at most four cuts are made at one place. -/
def lexerOf {σ : Type} (rule : CutRule σ) (start : List σ) : Lexer Tint := fun text =>
  cutText rule start (4 * (text.length + 1)) 0 start none text

/-! ## Pieces at the front of a text -/

/-- How many characters at the front satisfy a condition. -/
def span (p : Char → Bool) (t : Text) : Nat := (t.takeWhile p).length

/-- A length that counts only when it is not zero. -/
def positive (n : Nat) : Option Nat := if n = 0 then none else some n

/-- The length up to and with the first occurrence of a text. -/
def upTo? (needle : Text) (t : Text) : Option Nat :=
  (Text.find? needle t).map (· + needle.length)

/-- The length of a text at the front. -/
def literal? (needle : Text) (t : Text) : Option Nat :=
  if needle.isPrefixOf t then some needle.length else none

/-- The run of word characters at the front. -/
def wordAt (t : Text) : Text := t.takeWhile Text.isWord

end Highlight
end PageLoom
