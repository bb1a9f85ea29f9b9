import PageLoom.Json.Basic
import PageLoom.Decimal.Reading

set_option autoImplicit false

/-! # Reading JSON

The grammar is the strict one, with three names more (`NaN`, `Infinity`, `-Infinity`) where a value
may stand. A quoted text holds no raw control character and no unpaired surrogate escape. Of two
members with one name the later value counts, at the place of the earlier. -/

namespace PageLoom
namespace Json

/-- The blanks between tokens. -/
def isSpace (c : Char) : Bool := c = ' ' || c = '\t' || c = '\n' || c = '\r'

/-- What follows the blanks. -/
def skipSpace (t : Text) : Text := t.dropWhile isSpace

/-- The value of four hexadecimal digits. -/
def readHex4? : Text → Option (Nat × Text)
  | a :: b :: c :: d :: rest => do
      let a ← Text.hexValue? a
      let b ← Text.hexValue? b
      let c ← Text.hexValue? c
      let d ← Text.hexValue? d
      some (((a * 16 + b) * 16 + c) * 16 + d, rest)
  | _ => none

/-- The character behind `\u`, which is written with one escape or with a pair of surrogates. -/
def readEscape? (t : Text) : Option (Char × Text) := do
  let (high, rest) ← readHex4? t
  if 0xD800 ≤ high ∧ high < 0xDC00 then
    match rest with
    | '\\' :: 'u' :: rest =>
        let (low, rest) ← readHex4? rest
        if 0xDC00 ≤ low ∧ low < 0xE000 then
          some (Char.ofNat (0x10000 + (high - 0xD800) * 0x400 + (low - 0xDC00)), rest)
        else none
    | _ => none
  else if 0xDC00 ≤ high ∧ high < 0xE000 then none
  else some (Char.ofNat high, rest)

/-- The text up to the closing quote, and what follows it. -/
def readQuoted? : Nat → Text → Option (Text × Text)
  | 0, _ => none
  | _, [] => none
  | fuel + 1, c :: rest =>
      let put (c : Char) (rest : Text) : Option (Text × Text) :=
        (readQuoted? fuel rest).map fun (t, rest) => (c :: t, rest)
      if c = '"' then some ([], rest)
      else if c.toNat < 0x20 then none
      else if c = '\\' then
        match rest with
        | '"' :: rest => put '"' rest
        | '\\' :: rest => put '\\' rest
        | '/' :: rest => put '/' rest
        | 'b' :: rest => put '\x08' rest
        | 'f' :: rest => put '\x0c' rest
        | 'n' :: rest => put '\n' rest
        | 'r' :: rest => put '\r' rest
        | 't' :: rest => put '\t' rest
        | 'u' :: rest => (readEscape? rest).bind fun (c, rest) => put c rest
        | _ => none
      else put c rest

/-- A number: an integer when it has neither fraction nor exponent. -/
def readNumber? (t : Text) : Option (Json × Text) := do
  let (negative, body) := match t with
    | '-' :: rest => (true, rest)
    | rest => (false, rest)
  let number ← Decimal.takeUnsigned? body
  if number.whole.isEmpty ∨ (number.whole.length ≠ 1 ∧ number.whole.head? = some '0') then none
  match number.fraction, number.exponent with
  | none, none =>
      some (.int (Decimal.signed negative (Text.digitsValue number.whole)), number.rest)
  | fraction, _ =>
      if fraction = some [] then none
      else
        let x := number.toFloat
        some (.float (if negative then -x else x), number.rest)

/-- The named values. -/
def names : List (Text × Json) :=
  [("null", .null), ("true", .bool true), ("false", .bool false), ("NaN", .float (0.0 / 0.0)),
   ("Infinity", .float (1.0 / 0.0)), ("-Infinity", .float (-1.0 / 0.0))]

mutual

/-- The value at the front of a text, and what follows it. There is room for as many arrays and
    objects around a value. -/
def readValue? : Nat → Nat → Text → Option (Json × Text)
  | 0, _, _ => none
  | fuel + 1, room, t =>
      match skipSpace t with
      | '"' :: rest => (readQuoted? (rest.length + 1) rest).map fun (t, rest) => (.text t, rest)
      | '[' :: rest =>
          match skipSpace rest with
          | ']' :: rest => some (.array [], rest)
          | rest => (readItems? fuel room rest).map fun (items, rest) => (.array items, rest)
      | '{' :: rest =>
          match skipSpace rest with
          | '}' :: rest => some (.object [], rest)
          | rest =>
              (readMembers? fuel room [] rest).map fun (members, rest) => (.object members, rest)
      | rest =>
          match names.find? fun n => n.1.isPrefixOf rest with
          | some (name, value) => some (value, rest.drop name.length)
          | none => readNumber? rest

/-- The items up to the closing bracket. -/
def readItems? : Nat → Nat → Text → Option (List Json × Text)
  | 0, _, _ => none
  | _, 0, _ => none
  | fuel + 1, room + 1, t => do
      let (item, rest) ← readValue? fuel room t
      match skipSpace rest with
      | ']' :: rest => some ([item], rest)
      | ',' :: rest => (readItems? fuel (room + 1) rest).map fun (items, rest) => (item :: items, rest)
      | _ => none

/-- The members up to the closing brace, put behind those already known. -/
def readMembers? : Nat → Nat → List (Text × Json) → Text → Option (List (Text × Json) × Text)
  | 0, _, _, _ => none
  | _, 0, _, _ => none
  | fuel + 1, room + 1, known, t =>
      match skipSpace t with
      | '"' :: rest => do
          let (name, rest) ← readQuoted? (rest.length + 1) rest
          match skipSpace rest with
          | ':' :: rest =>
              let (value, rest) ← readValue? fuel room rest
              let known := setMember name value known
              match skipSpace rest with
              | '}' :: rest => some (known, rest)
              | ',' :: rest => readMembers? fuel (room + 1) known rest
              | _ => none
          | _ => none
      | _ => none

end

/-- The value that a text writes, blanks around it allowed, with no more than so many arrays and
    objects inside each other, empty ones not counted. Every step of the reader takes a character,
    so twice the length of the text bounds the nesting of the steps. -/
def readWithin? (room : Nat) (t : Text) : Option Json :=
  match readValue? (2 * t.length + 2) room t with
  | some (value, rest) => if (skipSpace rest).isEmpty then some value else none
  | none => none

/-- The value that a text writes, however deep. -/
def read? (t : Text) : Option Json := readWithin? t.length t

end Json
end PageLoom
