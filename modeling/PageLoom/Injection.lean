import PageLoom.Text.Basic

set_option autoImplicit false

/-! # Tags in the head of a page

The block of tags of a page goes before the first `</head>`; without one, on a new line after the
first `<body …>` tag; without that, to the start. ASCII case does not matter for either mark, and
nothing else of the page changes. -/

namespace PageLoom
namespace Injection

/-- The script that reloads a page when the stream at `path` says so. -/
def reloadScript (path : Text) : Text :=
  "  <script>\n    const es = new EventSource('" ++ path ++ "');\n" ++
    "    es.onmessage = (e) => \x7b if (e.data === 'reload') location.reload(); \x7d;\n" ++
    "  </script>\n"

/-- A tag on its own indented line. -/
def tagLine (tag : Text) : Text := "  " ++ tag ++ "\n"

/-- Stylesheet tags, then script tags, then the reload script if there is one. -/
def block (stylesheets scripts : List Text) (reload : Option Text) : Text :=
  (stylesheets.map tagLine).flatten ++ (scripts.map tagLine).flatten ++ reload.getD []

/-- Offset of the first occurrence of a lower-case mark, ASCII case ignored. -/
def findMark? (mark html : Text) : Option Nat := Text.find? mark (Text.asciiLower html)

/-- A place in a page: its offset, and whether a line starts there. -/
structure Place where
  offset : Nat
  newLine : Bool
  deriving DecidableEq, Repr

/-- Where the block of a page goes. -/
def place (html : Text) : Place :=
  match findMark? "</head>" html with
  | some head => ⟨head, false⟩
  | none =>
      match (findMark? "<body" html).bind (Text.findFrom? ['>'] html) with
      | some tagEnd => ⟨tagEnd + 1, true⟩
      | none => ⟨0, false⟩

/-- What is put at the place. -/
def inserted (p : Place) (block : Text) : Text := (if p.newLine then ['\n'] else []) ++ block

/-- The page with its tags. Without tags and reload script nothing is put in, not even the line
    feed. -/
def inject (html : Text) (stylesheets scripts : List Text) (reload : Option Text) : Text :=
  if stylesheets.isEmpty && scripts.isEmpty && reload.isNone then html
  else
    let p := place html
    html.take p.offset ++ inserted p (block stylesheets scripts reload) ++ html.drop p.offset

end Injection
end PageLoom
