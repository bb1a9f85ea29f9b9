import PageLoom.Text.Basic

set_option autoImplicit false

/-! # Files of variables

Each line sets one variable, `NAME=value`; `export` may stand before it. A quoted value may go over
several lines and hold escapes; an unquoted one ends before a blank followed by `#`. A line that
starts with `#` is a comment, a bare name sets nothing, and a line that cannot be read is passed
over. -/

namespace PageLoom
namespace VariableFile

/-- A blank that does not end a line. -/
def isInlineBlank (c : Char) : Bool := Text.isBlank c && c ≠ '\n' && c ≠ '\r'

/-- What follows the inline blanks. -/
def skipInline (t : Text) : Text := t.dropWhile isInlineBlank

/-- The rest of a line and what follows it, line end excluded. -/
def takeLine (t : Text) : Text × Text :=
  let inLine (c : Char) : Bool := c ≠ '\n' && c ≠ '\r'
  (t.takeWhile inLine, t.dropWhile inLine)

/-- The character that a letter behind a backslash stands for inside double quotes. -/
def escaped? : Char → Option Char
  | '\\' => some '\\'
  | '\'' => some '\''
  | '"' => some '"'
  | 'a' => some '\x07'
  | 'b' => some '\x08'
  | 'f' => some '\x0c'
  | 'n' => some '\n'
  | 'r' => some '\r'
  | 't' => some '\t'
  | 'v' => some '\x0b'
  | _ => none

/-- The text up to a closing quote and what follows it. Single quotes know only the escapes of the
    quote and the backslash. -/
def takeQuoted? (quote : Char) : Text → Option (Text × Text)
  | [] => none
  | '\\' :: c :: rest =>
      let meaning := if quote = '"' ∨ c = '\\' ∨ c = '\'' then escaped? c else none
      (takeQuoted? quote rest).map fun (t, r) =>
        (match meaning with
          | some m => m :: t
          | none => '\\' :: c :: t, r)
  | c :: rest =>
      if c = quote then some ([], rest) else (takeQuoted? quote rest).map fun (t, r) => (c :: t, r)

/-- An unquoted value: the line without a comment that follows a blank. -/
def plainValue (line : Text) : Text := Text.trimEnd (go line)
where
  go : Text → Text
    | [] => []
    | c :: rest =>
        if Text.isBlank c ∧ (Text.trimStart rest).head? = some '#' then [] else c :: go rest

/-- The value behind an equals sign and what follows it; none for a quote that never closes. -/
def takeValue? (t : Text) : Option (Text × Text) :=
  match skipInline t with
  | '\'' :: rest => takeQuoted? '\'' rest
  | '"' :: rest => takeQuoted? '"' rest
  | rest => let (line, rest) := takeLine rest; some (plainValue line, rest)

/-- What follows the end of a line, if only a comment stands before it. -/
def endLine? (t : Text) : Option Text :=
  match skipInline t with
  | [] => some []
  | '#' :: rest => some (takeLine rest).2
  | c :: rest => if c = '\n' ∨ c = '\r' then some (c :: rest) else none

/-- A name, without its quotes, and what follows it. -/
def takeName? (t : Text) : Option (Text × Text) :=
  match t with
  | '\'' :: rest =>
      let name := rest.takeWhile (· ≠ '\'')
      if name.isEmpty ∨ (rest.drop name.length).isEmpty then none
      else some (name, rest.drop (name.length + 1))
  | t =>
      let inName (c : Char) : Bool := c ≠ '=' && c ≠ '#' && !Text.isBlank c
      let name := t.takeWhile inName
      if name.isEmpty then none else some (name, t.dropWhile inName)

/-- What follows the word `export` and a blank. -/
def skipExport (t : Text) : Text :=
  let word : Text := "export"
  let behind := t.drop word.length
  if word.isPrefixOf t ∧ (behind.head?.map isInlineBlank).getD false then skipInline behind else t

/-- The variable that the front of a text sets, and what follows it. -/
def takeBinding? (t : Text) : Option ((Text × Option Text) × Text) := do
  let (name, rest) ← takeName? (skipExport t)
  match skipInline rest with
  | '=' :: rest =>
      let (value, rest) ← takeValue? rest
      return ((name, some value), ← endLine? rest)
  | rest => return ((name, none), ← endLine? rest)

/-- The variables of a file, in order. -/
def read (text : Text) : List (Text × Text) := go (text.length + 1) text
where
  go : Nat → Text → List (Text × Text)
    | 0, _ => []
    | fuel + 1, t =>
        match Text.trimStart t with
        | [] => []
        | '#' :: rest => go fuel (takeLine rest).2
        | rest =>
            match takeBinding? rest with
            | some ((name, some value), rest) => (name, value) :: go fuel rest
            | some ((_, none), rest) => go fuel rest
            | none => go fuel (takeLine rest).2

end VariableFile
end PageLoom
