import PageLoom.Text.Basic

set_option autoImplicit false

/-! # Binary numbers, exactly

A binary64 number is a NaN, an infinity, or a sign and `mantissa * 2 ^ exponent`. Whole numbers,
remainders and roundings are computed on that form with integers only, and a decimal is read to
the nearest number. -/

namespace PageLoom
namespace Decimal

/-- `mantissa * 2 ^ exponent`. -/
structure Magnitude where
  mantissa : Nat
  exponent : Int
  /-- The gap to the number below is half the gap to the number above. -/
  narrowBelow : Bool
  deriving DecidableEq, Repr

/-- What the sixty-four bits of a number say. -/
inductive Binary where
  | nan
  | infinite (negative : Bool)
  | finite (negative : Bool) (magnitude : Magnitude)
  deriving DecidableEq, Repr

/-- Reads the sign, exponent and fraction fields. -/
def Binary.ofBits (bits : UInt64) : Binary :=
  let negative := (bits >>> 63) == 1
  let field := ((bits >>> 52) &&& 0x7FF).toNat
  let fraction := (bits &&& 0xFFFFFFFFFFFFF).toNat
  if field == 0x7FF then
    if fraction == 0 then .infinite negative else .nan
  else if field == 0 then .finite negative ⟨fraction, -1074, false⟩
  else
    .finite negative ⟨0x10000000000000 + fraction, (field : Int) - 1075, fraction == 0 && 1 < field⟩

/-- The exact content of a float. -/
def Binary.ofFloat (x : Float) : Binary := .ofBits x.toBits

/-- The value as a numerator over a denominator, which is a power of two. -/
def Magnitude.fraction (x : Magnitude) : Nat × Nat :=
  (x.mantissa * Nat.pow 2 x.exponent.toNat, Nat.pow 2 (-x.exponent).toNat)

/-- The natural number a magnitude is, if it is one. -/
def Magnitude.whole? (x : Magnitude) : Option Nat :=
  let (num, den) := x.fraction
  if num % den = 0 then some (num / den) else none

/-- The whole part of a magnitude. -/
def Magnitude.floor (x : Magnitude) : Nat := x.fraction.1 / x.fraction.2

/-- An integer with its sign set apart. -/
def signed (negative : Bool) (n : Nat) : Int := if negative then -(n : Int) else n

/-- The integer a float is, if it is one; both zeros are the integer zero. -/
def whole? (x : Float) : Option Int :=
  match Binary.ofFloat x with
  | .finite negative magnitude => magnitude.whole?.map (signed negative)
  | _ => none

/-- The float next to `digits * 10 ^ exponent`. Exponents beyond the range of any float are cut
    off first, so that no power of ten is larger than needed. -/
def toFloat (digits : Nat) (exponent : Int) : Float :=
  if digits = 0 then 0.0
  else
    let size : Int := (Nat.toDigits 10 digits).length
    if 400 < size + exponent then 1.0 / 0.0
    else if size + exponent < -400 then 0.0
    else Float.ofScientific digits (exponent < 0) exponent.natAbs

/-- The float next to an integer. -/
def ofInt (n : Int) : Float :=
  let magnitude := toFloat n.natAbs 0
  if n < 0 then -magnitude else magnitude

/-- The float next to `(-1) ^ negative * num / den * 2 ^ exponent` when that value is a float:
    the exact inverse of `Binary.ofFloat` on finite numbers. -/
def ofMagnitude (negative : Bool) (mantissa : Nat) (exponent : Int) : Float :=
  let x := (Float.ofNat mantissa).scaleB exponent
  if negative then -x else x

/-- The remainder of a truncating division: exact, with the sign of the dividend. -/
def remainder (a b : Float) : Float :=
  match Binary.ofFloat a, Binary.ofFloat b with
  | .finite negative x, .finite _ y =>
      if y.mantissa = 0 then 0.0 / 0.0
      else
        let e := min x.exponent y.exponent
        let m := x.mantissa * Nat.pow 2 (x.exponent - e).toNat
        let n := y.mantissa * Nat.pow 2 (y.exponent - e).toNat
        ofMagnitude negative (m % n) e
  | .finite .., .infinite _ => a
  | _, _ => 0.0 / 0.0

/-- The quotient rounded to the nearest integer; a half goes up. -/
def roundHalfUp (num den : Nat) : Nat := (2 * num + den) / (2 * den)

end Decimal
end PageLoom
