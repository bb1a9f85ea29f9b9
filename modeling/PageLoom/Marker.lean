import PageLoom.Text.Basic

set_option autoImplicit false

/-! # Markers

A marker is written `{{ … }}`. The scan for its end counts doubled braces, skips quoted texts (in
any of three quotes, a backslash taking the next character with it) and looks at nothing left of
where it starts. -/

namespace PageLoom
namespace Marker

/-- The doubled brace that opens a marker. -/
def opening : Text := ['{', '{']

/-- The doubled brace that closes a marker. -/
def closing : Text := ['}', '}']

/-- The three characters that quote a text inside a marker. -/
def isQuote (c : Char) : Bool := c = '"' || c = '\'' || c = '`'

/-- Offset of the doubled brace that closes a marker, in the text that follows its opening. `quote`
    is the quote that is open, `depth` the number of nested markers that are. -/
def scan : Option Char → Nat → Text → Option Nat
  | _, _, [] => none
  | some _, _, ['\\'] => none
  | some q, depth, '\\' :: _ :: rest => (scan (some q) depth rest).map (· + 2)
  | some q, depth, c :: rest =>
      (scan (if c = q then none else some q) depth rest).map (· + 1)
  | none, depth, '{' :: '{' :: rest => (scan none (depth + 1) rest).map (· + 2)
  | none, 0, '}' :: '}' :: _ => some 0
  | none, depth + 1, '}' :: '}' :: rest => (scan none depth rest).map (· + 2)
  | none, depth, c :: rest =>
      (scan (if isQuote c then some c else none) depth rest).map (· + 1)

/-- Offset of the doubled brace that closes the marker whose inner text begins at `start`. -/
def close? (text : Text) (start : Nat) : Option Nat :=
  (scan none 0 (text.drop start)).map (· + start)

/-- The scan depends on nothing left of its start. -/
theorem close?_append_left (u t : Text) (start : Nat) :
    close? (u ++ t) (u.length + start) = (close? t start).map (· + u.length) := by
  simp only [close?, List.drop_append, Option.map_map]
  rw [List.drop_eq_nil_of_le (by omega), List.nil_append, Nat.add_sub_cancel_left]
  congr 1
  funext n
  simp only [Function.comp_apply]
  omega

end Marker
end PageLoom
