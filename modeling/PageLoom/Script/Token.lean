import PageLoom.Decimal.Reading
import PageLoom.Text.Units
import PageLoom.Text.Word

set_option autoImplicit false

/-! # Tokens of a script

A script is cut into names, numbers, quoted texts, pieces of template texts and signs. Each token
knows its place in the source, since a function's text is the source it was written with, and
whether a line ended before it, since a line end can close a statement. -/

namespace PageLoom
namespace Script

/-- What a token is. -/
inductive Lexeme where
  /-- A name or a reserved word. -/
  | name (t : Text)
  | number (x : Float)
  | text (t : Text)
  /-- A piece of a template text: `opens` it, and `closes` it. -/
  | piece (t : Text) (opens closes : Bool)
  | sign (t : Text)

/-- A token and its place. -/
structure Token where
  lexeme : Lexeme
  start : Nat
  stop : Nat
  /-- A line ended between this token and the one before. -/
  lineBefore : Bool

namespace Token

/-- The characters that end a line. -/
def isLineEnd (c : Char) : Bool := c = '\n' || c = '\r' || c = '\u2028' || c = '\u2029'

/-- The blanks of scripts. -/
def isSpace (c : Char) : Bool :=
  isLineEnd c || c = '\uFEFF' ||
    (Text.isBlank c && c ≠ '\u0085' && ¬ (0x1C ≤ c.toNat && c.toNat ≤ 0x1F))

/-- A name begins with a letter, an underscore or a dollar sign. -/
def isNameStart (c : Char) : Bool :=
  c.isAlpha || c = '_' || c = '$' || (0x7F < c.toNat && Text.isWord c)

/-- A name goes on with letters, digits and joiners. -/
def isNameRest (c : Char) : Bool :=
  isNameStart c || c.isDigit || c = '\u200C' || c = '\u200D'

/-- The signs, longer ones before their beginnings. -/
def signs : List Text :=
  ["...", "===", "!==", "**=", "=>", "==", "!=", "<=", ">=", "&&", "||", "??", "++", "--", "+=",
   "-=", "*=", "/=", "%=", "**", "\x7b", "\x7d", "(", ")", "[", "]", ";", ",", "<", ">", "+", "-",
   "*", "/", "%", "!", "?", ":", "=", "."].map String.toList

/-- A number of exactly `count` hexadecimal digits. -/
def takeHex? (count : Nat) (t : Text) : Option (Nat × Text) := do
  let digits ← (t.take count).mapM Text.hexValue?
  if digits.length = count then
    some (digits.foldl (fun n d => 16 * n + d) 0, t.drop count)
  else none

/-- What a backslash and the text behind it stand for: units, and the text that follows. -/
def takeEscape? : Text → Option (List Nat × Text)
  | [] => none
  | 'n' :: rest => some ([0x0A], rest)
  | 't' :: rest => some ([0x09], rest)
  | 'r' :: rest => some ([0x0D], rest)
  | 'b' :: rest => some ([0x08], rest)
  | 'f' :: rest => some ([0x0C], rest)
  | 'v' :: rest => some ([0x0B], rest)
  | '0' :: rest => some ([0], rest)
  | '\r' :: '\n' :: rest => some ([], rest)
  | 'x' :: rest => (takeHex? 2 rest).map fun (n, r) => ([n], r)
  | 'u' :: '{' :: rest =>
      let digits := rest.takeWhile (· ≠ '}')
      match takeHex? digits.length rest with
      | some (n, '}' :: rest) =>
          if digits.isEmpty ∨ 0x10FFFF < n then none else some (Text.charUnits (Char.ofNat n), rest)
      | _ => none
  | 'u' :: rest => (takeHex? 4 rest).map fun (n, r) => ([n], r)
  | c :: rest => some (if isLineEnd c then [] else Text.charUnits c, rest)

/-- The units up to a closing quote, and what follows it. A line feed may not stand inside. -/
def takeQuoted? (quote : Char) : Nat → Text → Option (List Nat × Text)
  | 0, _ | _, [] => none
  | fuel + 1, c :: rest =>
      if c = quote then some ([], rest)
      else if c = '\n' ∨ c = '\r' then none
      else if c = '\\' then do
        let (units, rest) ← takeEscape? rest
        (takeQuoted? quote fuel rest).map fun (us, r) => (units ++ us, r)
      else (takeQuoted? quote fuel rest).map fun (us, r) => (Text.charUnits c ++ us, r)

/-- The units of a piece of a template text, what follows it, and whether it closes the text.
    Line ends count as line feeds. -/
def takePiece? : Nat → Text → Option (List Nat × Text × Bool)
  | 0, _ | _, [] => none
  | _, '`' :: rest => some ([], rest, true)
  | _, '$' :: '{' :: rest => some ([], rest, false)
  | fuel + 1, '\\' :: rest => do
      let (units, rest) ← takeEscape? rest
      (takePiece? fuel rest).map fun (us, r) => (units ++ us, r)
  | fuel + 1, '\r' :: '\n' :: rest => (takePiece? fuel rest).map fun (us, r) => (0x0A :: us, r)
  | fuel + 1, '\r' :: rest => (takePiece? fuel rest).map fun (us, r) => (0x0A :: us, r)
  | fuel + 1, c :: rest => (takePiece? fuel rest).map fun (us, r) => (Text.charUnits c ++ us, r)

/-- Digits in a base of at most sixteen. -/
def takeBase (base : Nat) (t : Text) : Text × Text :=
  let isIn (c : Char) : Bool := (Text.hexValue? c).any (· < base)
  (t.takeWhile isIn, t.dropWhile isIn)

/-- The value of digits in a base. -/
def baseValue (base : Nat) (digits : Text) : Nat :=
  digits.foldl (fun n c => base * n + (Text.hexValue? c).getD 0) 0

/-- The base that a letter behind a leading zero announces. -/
def baseOf? (c : Char) : Option Nat :=
  if c = 'x' ∨ c = 'X' then some 16
  else if c = 'o' ∨ c = 'O' then some 8
  else if c = 'b' ∨ c = 'B' then some 2
  else none

/-- A number and what follows it, which must not go on as a name. A leading zero before octal
    digits makes the number octal. -/
def takeNumber? (t : Text) : Option (Float × Text) := do
  let (x, rest) ← match t with
    | '0' :: c :: rest =>
        match baseOf? c with
        | some base =>
            let (digits, rest) := takeBase base rest
            if digits.isEmpty then none else some (Decimal.toFloat (baseValue base digits) 0, rest)
        | none => decimal t
    | t => decimal t
  match rest with
  | c :: _ => if isNameRest c then none else some (x, rest)
  | [] => some (x, [])
where
  decimal (t : Text) : Option (Float × Text) := do
    let u ← Decimal.takeUnsigned? t
    if 1 < u.whole.length ∧ u.whole.all (fun c => '0' ≤ c ∧ c ≤ '7') ∧ u.whole.head? = some '0' then
      some (Decimal.toFloat (baseValue 8 u.whole) 0, t.drop u.whole.length)
    else some (u.toFloat, u.rest)

/-- What follows a comment of several lines, and whether a line ends in it. -/
def takeComment? : Text → Option (Text × Bool)
  | [] => none
  | '*' :: '/' :: rest => some (rest, false)
  | c :: rest => (takeComment? rest).map fun (r, line) => (r, line || isLineEnd c)

/-- What follows blanks and comments, and whether a line ends in them. -/
def skipSpace? : Nat → Bool → Text → Option (Text × Bool)
  | 0, _, _ => none
  | _, line, [] => some ([], line)
  | fuel + 1, line, '/' :: '/' :: rest => skipSpace? fuel line (rest.dropWhile (¬ isLineEnd ·))
  | fuel + 1, line, '/' :: '*' :: rest => do
      let (rest, ended) ← takeComment? rest
      skipSpace? fuel (line || ended) rest
  | fuel + 1, line, c :: rest =>
      if isSpace c then skipSpace? fuel (line || isLineEnd c) rest else some (c :: rest, line)

/-- The lexeme at the front and what follows it. `inTemplate` says whether a closing brace returns
    to a template text. -/
def takeLexeme? (inTemplate : Bool) (t : Text) : Option (Lexeme × Text) :=
  match t with
  | [] => none
  | '"' :: rest => (takeQuoted? '"' (rest.length + 1) rest).map fun (us, r) =>
      (.text (Text.ofUnits us), r)
  | '\'' :: rest => (takeQuoted? '\'' (rest.length + 1) rest).map fun (us, r) =>
      (.text (Text.ofUnits us), r)
  | '`' :: rest => (takePiece? (rest.length + 1) rest).map fun (us, r, closes) =>
      (.piece (Text.ofUnits us) true closes, r)
  | c :: rest =>
      if c = '}' ∧ inTemplate then
        (takePiece? (rest.length + 1) rest).map fun (us, r, closes) =>
          (.piece (Text.ofUnits us) false closes, r)
      else if isNameStart c then
        some (.name (c :: rest.takeWhile isNameRest), rest.dropWhile isNameRest)
      else if c.isDigit ∨ (c = '.' ∧ (rest.head?.map Char.isDigit).getD false) then
        (takeNumber? t).map fun (x, r) => (.number x, r)
      else (signs.find? (·.isPrefixOf t)).map fun s => (.sign s, t.drop s.length)

/-- The braces still open behind a lexeme: `true` for one that opened inside a template text. -/
def bracesAfter (open_ : List Bool) : Lexeme → List Bool
  | .sign ['{'] => false :: open_
  | .sign ['}'] => open_.drop 1
  | .piece _ true false => true :: open_
  | .piece _ false true => open_.drop 1
  | _ => open_

/-- The tokens of a script; none when some text is no token. -/
def scan? (source : Text) : Option (List Token) := go (source.length + 1) [] source
where
  go : Nat → List Bool → Text → Option (List Token)
    | 0, _, _ => none
    | fuel + 1, open_, t => do
        let (t, line) ← skipSpace? (t.length + 1) false t
        if t.isEmpty then return []
        let (lexeme, rest) ← takeLexeme? (open_.head? == some true) t
        let start := source.length - t.length
        let stop := source.length - rest.length
        return ⟨lexeme, start, stop, line⟩ :: (← go fuel (bracesAfter open_ lexeme) rest)

end Token
end Script
end PageLoom
