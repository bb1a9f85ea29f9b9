import PageLoom.Decimal.Shortest

set_option autoImplicit false

/-! # How numbers are written

Which digits a number has is settled in `Shortest`; a `Notation` holds the decisions of one written
form: where positional digits end, whether whole numbers show a point, how exponents and the
special values look. -/

namespace PageLoom
namespace Decimal

/-- The decisions of one written form of numbers. -/
structure Notation where
  /-- Numbers whose leading digit stands at `10 ^ e` with `plainFrom ≤ e < plainBelow` are written
      positionally. -/
  plainFrom : Int
  plainBelow : Int
  /-- Whole numbers end in `.0`. -/
  pointZero : Bool
  /-- Exponents have at least this many digits. -/
  exponentWidth : Nat
  /-- Negative zero keeps its sign. -/
  signedZero : Bool
  nan : Text
  infinity : Text

/-- The positional or scientific form of a decimal with the given notation. -/
def Notation.layout (style : Notation) (d : Scaled) : Text :=
  let digits := Text.ofNat d.digits
  let count : Int := digits.length
  let lead := d.exponent + count - 1
  if style.plainFrom ≤ lead ∧ lead < style.plainBelow then
    if 0 ≤ d.exponent then
      digits ++ List.replicate d.exponent.toNat '0' ++ (if style.pointZero then ".0" else "")
    else if 0 ≤ lead then
      digits.take (lead + 1).toNat ++ '.' :: digits.drop (lead + 1).toNat
    else "0." ++ List.replicate (-lead - 1).toNat '0' ++ digits
  else
    let fraction := digits.drop 1
    digits.take 1 ++ (if fraction.isEmpty then [] else '.' :: fraction) ++
      (if lead < 0 then "e-" else "e+") ++
      Text.padLeft style.exponentWidth '0' (Text.ofNat lead.natAbs)

/-- The written form of a float. -/
def Notation.write (style : Notation) (x : Float) : Text :=
  match Binary.ofFloat x with
  | .nan => style.nan
  | .infinite negative => (if negative then "-" else "") ++ style.infinity
  | .finite negative magnitude =>
      if magnitude.mantissa = 0 then
        (if negative && style.signedZero then "-" else "") ++
          (if style.pointZero then "0.0" else "0")
      else (if negative then "-" else "") ++ style.layout magnitude.shortest

/-- Numbers as scripts show them: positional below 10^21 and from 10^-6 on. -/
def scriptNotation : Notation where
  plainFrom := -6
  plainBelow := 21
  pointZero := false
  exponentWidth := 1
  signedZero := false
  nan := "NaN"
  infinity := "Infinity"

/-- Numbers as data files show them: positional below 10^16 and from 10^-4 on, always with a point
    or an exponent, so that they are told apart from integers. -/
def dataNotation : Notation where
  plainFrom := -4
  plainBelow := 16
  pointZero := true
  exponentWidth := 2
  signedZero := true
  nan := "NaN"
  infinity := "Infinity"

/-- Numbers as pages show them: every whole number as an exact integer, other numbers as data files
    show them. -/
def writePage (x : Float) : Text :=
  match whole? x with
  | some n => Text.ofInt n
  | none => dataNotation.write x

/-- A number with a set count of decimals: the exact value, a half rounded away from zero. -/
def writeFixed (places : Nat) (x : Float) : Text :=
  match Binary.ofFloat x with
  | .finite negative magnitude =>
      let (num, den) := magnitude.fraction
      if 1000000000000000000000 * den ≤ num then scriptNotation.write x
      else
        let digits :=
          Text.padLeft (places + 1) '0' (Text.ofNat (roundHalfUp (num * Nat.pow 10 places) den))
        let point := digits.length - places
        (if negative ∧ num ≠ 0 then "-" else "") ++ digits.take point ++
          (if places = 0 then [] else '.' :: digits.drop point)
  | _ => scriptNotation.write x

/-- The four boundaries of the positional form of scripts, and a tie of the last digit. -/
example :
    [1e20, 1e21, 1e-6, 1e-7, 2.98023223876953125e-8].map scriptNotation.write =
      ["100000000000000000000".toList, "1e+21".toList, "0.000001".toList, "1e-7".toList,
        "2.9802322387695312e-8".toList] := by decide +kernel

/-- The same boundaries of the form of data files. -/
example :
    [1e15, 1e16, 0.0001, 0.00001, 1.0, -0.0].map dataNotation.write =
      ["1000000000000000.0".toList, "1e+16".toList, "0.0001".toList, "1e-05".toList,
        "1.0".toList, "-0.0".toList] := by decide +kernel

end Decimal

/-- The text that scripts give a number, by the rule of their language. -/
def Script.numberText (x : Float) : Text := Decimal.scriptNotation.write x

end PageLoom
