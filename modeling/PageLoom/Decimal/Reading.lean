import PageLoom.Decimal.Binary
import PageLoom.Text.Digit

set_option autoImplicit false

/-! # Reading numbers from text

The beginnings that every numeral here shares (digits, a decimal with fraction and exponent), and
the lenient numerals of configuration values. -/

namespace PageLoom
namespace Decimal

/-- An ASCII digit. -/
def isDigit (c : Char) : Bool := '0' ≤ c && c ≤ '9'

/-- The digits at the front, and what follows them. -/
def takeDigits (t : Text) : Text × Text := (t.takeWhile isDigit, t.dropWhile isDigit)

/-- An exponent mark with an optional sign and at least one digit. -/
def takeExponent? (t : Text) : Option (Int × Text) :=
  match t with
  | c :: rest =>
      if c = 'e' ∨ c = 'E' then
        let (negative, rest) := match rest with
          | '-' :: rest => (true, rest)
          | '+' :: rest => (false, rest)
          | rest => (false, rest)
        let (digits, rest) := takeDigits rest
        if digits.isEmpty then none else some (signed negative (Text.digitsValue digits), rest)
      else none
  | [] => none

/-- Whole digits, fraction digits and exponent of an unsigned decimal, and what follows it. Digits
    before or after the point may be missing, but not both. -/
structure Unsigned where
  whole : Text
  /-- The digits after the point, if there is a point. -/
  fraction : Option Text
  exponent : Option Int
  rest : Text

/-- The unsigned decimal at the front of a text. -/
def takeUnsigned? (t : Text) : Option Unsigned :=
  let (whole, afterWhole) := takeDigits t
  let (fraction, afterFraction) := match afterWhole with
    | '.' :: rest => (some (takeDigits rest).1, (takeDigits rest).2)
    | rest => (none, rest)
  if whole.isEmpty ∧ (fraction.getD []).isEmpty then none
  else
    match takeExponent? afterFraction with
    | some (e, rest) => some ⟨whole, fraction, some e, rest⟩
    | none => some ⟨whole, fraction, none, afterFraction⟩

/-- The float nearest to an unsigned decimal. -/
def Unsigned.toFloat (u : Unsigned) : Float :=
  let fraction := u.fraction.getD []
  Decimal.toFloat (Text.digitsValue (u.whole ++ fraction)) (u.exponent.getD 0 - fraction.length)

/-- Splits an optional sign off. -/
def takeSign : Text → Bool × Text
  | '-' :: rest => (true, rest)
  | '+' :: rest => (false, rest)
  | rest => (false, rest)

/-- Drops underscores that stand singly between two digits; any other underscore refuses the
    text. -/
def dropUnderscores? (t : Text) : Option Text :=
  go false t
where
  go : Bool → Text → Option Text
    | _, [] => some []
    | afterDigit, '_' :: rest =>
        match rest with
        | d :: _ => if afterDigit && isDigit d then go false rest else none
        | [] => none
    | _, c :: rest => (go (isDigit c) rest).map (c :: ·)

/-- An integer: padding around it, a sign, and digits of any script with single underscores between
    them. -/
def readInteger? (t : Text) : Option Int := do
  let (negative, body) := takeSign (Text.trimPadding (Text.plainDigits t))
  let digits ← dropUnderscores? body
  if ¬ digits.isEmpty ∧ digits.all isDigit then some (signed negative (Text.digitsValue digits))
  else none

/-- An integer as configuration values write it: padding around it, a sign, leading zeros, single
    underscores between digits and an all-zero fraction are allowed. -/
def readInt? (t : Text) : Option Int := do
  let (negative, body) := takeSign (Text.trimPadding t)
  let body ← dropUnderscores? body
  let (digits, rest) := takeDigits body
  if digits.isEmpty then none
  match rest with
  | [] => some (signed negative (Text.digitsValue digits))
  | '.' :: zeros =>
      if ¬ zeros.isEmpty ∧ zeros.all (· = '0') then
        some (signed negative (Text.digitsValue digits))
      else none
  | _ => none

/-- A float as configuration values write it: as `readInt?`, with fraction and exponent, and the
    names of the special values in any case. -/
def readFloat? (t : Text) : Option Float := do
  let (negative, body) := takeSign (Text.trimPadding t)
  let sign (x : Float) : Float := if negative then -x else x
  match String.ofList (Text.asciiLower body) with
  | "nan" => some (0.0 / 0.0)
  | "inf" | "infinity" => some (sign (1.0 / 0.0))
  | _ =>
      let body ← dropUnderscores? body
      let number ← takeUnsigned? body
      if number.rest.isEmpty then some (sign number.toFloat) else none

end Decimal
end PageLoom
