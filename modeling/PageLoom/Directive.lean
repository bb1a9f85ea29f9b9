import PageLoom.Json.Basic
import PageLoom.Placeholder
import PageLoom.Text.Word

set_option autoImplicit false

/-! # Import directives

A marker whose text is exactly one call of a registered name with one quoted path is an import
directive: it puts a tag into the head of the page and is never run as a script. -/

namespace PageLoom

/-- What an import brings in. Stylesheet tags stand before script tags. -/
inductive AssetKind where
  | stylesheet
  | script
  deriving DecidableEq, Repr

/-- The tag that a directive stands for; the field `url` of the pattern is the asset's URL. -/
structure Directive where
  kind : AssetKind
  tag : Text
  deriving DecidableEq, Repr

namespace Directive

/-- The tag for a URL. -/
def render (d : Directive) (url : Text) : Except Placeholder.Fault Text :=
  Placeholder.fill [("url", .text url)] d.tag

/-- A recognised directive: its name and its path. -/
structure Call where
  name : Text
  path : Text
  deriving DecidableEq, Repr

/-- Names begin with an ASCII letter, an underscore or a dollar sign. -/
def isNameStart (c : Char) : Bool := c.isAlpha || c = '_' || c = '$'

/-- Names go on with word characters and dollar signs. -/
def isNameRest (c : Char) : Bool := Text.isWord c || c = '$'

/-- The quoted path at the front and what follows it; neither the quote nor a backslash stands
    inside. -/
def takePath? : Text → Option (Text × Text)
  | quote :: rest =>
      if quote = '"' ∨ quote = '\'' then
        let path := rest.takeWhile fun c => c ≠ quote ∧ c ≠ '\\'
        match rest.drop path.length with
        | c :: rest => if c = quote then some (path, rest) else none
        | [] => none
      else none
  | [] => none

/-- Reads `name( "path" )`, with blanks allowed inside the parentheses and around the
    whole. -/
def read? (raw : Text) : Option Call := do
  match Text.trim raw with
  | [] => none
  | c :: rest =>
      if ¬ isNameStart c then none
      let name := c :: rest.takeWhile isNameRest
      match rest.dropWhile isNameRest with
      | '(' :: rest =>
          let (path, rest) ← takePath? (Text.trimStart rest)
          match Text.trimStart rest with
          | [')'] => some ⟨name, path⟩
          | _ => none
      | _ => none

end Directive

/-- The known directives by name, in order of registration. -/
abbrev Registry := List (Text × Directive)

namespace Registry

/-- The directives every page may use. -/
def builtIn : Registry :=
  [("importCSS", ⟨.stylesheet, "<link rel=\"stylesheet\" href=\"{url}\">"⟩),
   ("importJS", ⟨.script, "<script type=\"module\" src=\"{url}\"></script>"⟩)]

/-- The registry with one directive more, or with a known name taken over. -/
def register (name : Text) (d : Directive) (registry : Registry) : Registry :=
  setMember name d registry

/-- The directive of a name. -/
def get? (name : Text) (registry : Registry) : Option Directive := member? name registry

/-- The directive that a marker's text is, if it is one. -/
def match? (registry : Registry) (raw : Text) : Option (Directive.Call × Directive) := do
  let call ← Directive.read? raw
  let directive ← get? call.name registry
  return (call, directive)

end Registry
end PageLoom
