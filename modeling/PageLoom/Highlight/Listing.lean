import PageLoom.Highlight.Markup

set_option autoImplicit false

/-! # Listings

A listing shows a template line by line with line numbers. Neighbours on a line that look alike
share one element. -/

namespace PageLoom
namespace Highlight

/-- A run of characters that look alike. -/
structure Run where
  style : Text
  text : Text
  deriving DecidableEq, Repr

/-- Escapes what has a meaning in markup, quotes apart. -/
def escaped (t : Text) : Text :=
  t.flatMap fun
    | '&' => "&amp;"
    | '<' => "&lt;"
    | '>' => "&gt;"
    | c => [c]

/-- The element of a run. -/
def Run.element (r : Run) : Text :=
  if r.style.isEmpty then escaped r.text
  else "<span style=\"" ++ r.style ++ "\">" ++ escaped r.text ++ "</span>"

/-- Puts a run before others; it joins the first of them if they look alike. -/
def joinRun (r : Run) : List Run → List Run
  | next :: rest =>
      if r.text.isEmpty then next :: rest
      else if r.style = next.style then ⟨r.style, r.text ++ next.text⟩ :: rest
      else r :: next :: rest
  | [] => if r.text.isEmpty then [] else [r]

/-- Puts a lexeme before lines: its last line joins the first of them. -/
def joinLexeme (style : Text) : List Text → List (List Run) → List (List Run)
  | [], lines => lines
  | [last], first :: lines => joinRun ⟨style, last⟩ first :: lines
  | [last], [] => [joinRun ⟨style, last⟩ []]
  | line :: rest, lines => joinRun ⟨style, line⟩ [] :: joinLexeme style rest lines

/-- The lines of lexemes, as runs. The last line is the one after the last line end. -/
def linesOf (lexemes : List (Lexeme Tint)) : List (List Run) :=
  lexemes.foldr (fun l lines => joinLexeme l.kind.style (Text.splitOn '\n' l.value) lines) []

/-- The element of a line number. -/
def numberElement (width n : Nat) : Text :=
  "<span style=\"color: inherit; background-color: transparent; padding-left: 5px; " ++
    "padding-right: 5px;\">" ++ Text.padLeft width ' ' (Text.ofNat n) ++ "</span>"

/-- The listing of a template. -/
def listing (source : Text) : Text :=
  let lines := linesOf (tinted (shownText source))
  let lines := if lines.getLast? = some [] then lines.dropLast else lines
  let width := (Text.ofNat lines.length).length
  let shown := lines.mapIdx fun i line =>
    numberElement width (i + 1) ++ line.flatMap Run.element ++ ['\n']
  "<div class=\"highlight\" style=\"background: #f8f8f8\"><pre style=\"line-height: 125%;\">" ++
    "<span></span>" ++ shown.flatten ++ "</pre></div>\n"

end Highlight
end PageLoom
