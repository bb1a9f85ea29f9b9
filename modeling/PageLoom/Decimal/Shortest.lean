import PageLoom.Decimal.Binary

set_option autoImplicit false

/-! # The fewest digits that read back

The decimal of a positive magnitude is the one with the fewest digits among the reals that round
to it; among those with equally few digits it is the nearest, and of two equally near the one with
an even last digit. The search tries the grids of one, two, … seventeen digits and on each only the
two neighbours of the value, in exact integer arithmetic. -/

namespace PageLoom
namespace Decimal

/-- `digits * 10 ^ exponent`. -/
structure Scaled where
  digits : Nat
  exponent : Int
  deriving DecidableEq, Repr

/-- Compares `a * 10 ^ e` with `num / den`. -/
def compareScaled (a : Nat) (e : Int) (num den : Nat) : Ordering :=
  compare (a * Nat.pow 10 e.toNat * den) (num * Nat.pow 10 (-e).toNat)

/-- Whether a decimal lies among the reals that round to `x`: between the midpoints towards the
    neighbouring numbers, which belong to it exactly when the mantissa is even. -/
def Magnitude.readsBack (x : Magnitude) (d : Scaled) : Bool :=
  let (num, den) := x.fraction
  let unit := Nat.pow 2 x.exponent.toNat
  let below := 4 * num - (if x.narrowBelow then unit else 2 * unit)
  let above := 4 * num + 2 * unit
  let closed := x.mantissa % 2 == 0
  let atBelow := compareScaled d.digits d.exponent below (4 * den)
  let atAbove := compareScaled d.digits d.exponent above (4 * den)
  (atBelow == .gt || (closed && atBelow == .eq)) && (atAbove == .lt || (closed && atAbove == .eq))

/-- The least `k` from `start` on, within `fuel` steps, with `x < 10 ^ k`. -/
def Magnitude.scaleFrom (x : Magnitude) : Nat → Int → Int
  | 0, k => k
  | fuel + 1, k =>
      let (num, den) := x.fraction
      if compareScaled 1 k num den == .gt then k else x.scaleFrom fuel (k + 1)

/-- The least `k` with `x < 10 ^ k`: the number of digits before the point. The search starts at an
    estimate from the binary logarithm that is never too high and at most four too low. -/
def Magnitude.scale (x : Magnitude) : Int :=
  let log2 : Int := x.mantissa.log2 + x.exponent
  let estimate := if 0 ≤ log2 then log2 * 30102 / 100000 else log2 * 30104 / 100000
  x.scaleFrom 6 estimate

/-- The nearest decimal on the grid `10 ^ e` that reads back. -/
def Magnitude.onGrid? (x : Magnitude) (e : Int) : Option Scaled :=
  let (num, den) := x.fraction
  let lower := num * Nat.pow 10 (-e).toNat / (den * Nat.pow 10 e.toNat)
  let low : Scaled := ⟨lower, e⟩
  let high : Scaled := ⟨lower + 1, e⟩
  match x.readsBack low, x.readsBack high with
  | false, false => none
  | true, false => some low
  | false, true => some high
  | true, true =>
      match compareScaled (2 * lower + 1) e (2 * num) den with
      | .gt => some low
      | .lt => some high
      | .eq => if lower % 2 = 0 then some low else some high

/-- The same decimal without trailing zero digits. -/
def Scaled.strip (d : Scaled) : Scaled := go (d.digits.log2 + 1) d
where
  go : Nat → Scaled → Scaled
    | 0, d => d
    | fuel + 1, d =>
        if d.digits % 10 = 0 ∧ d.digits ≠ 0 then go fuel ⟨d.digits / 10, d.exponent + 1⟩ else d

/-- All digits of the exact value. -/
def Magnitude.exact (x : Magnitude) : Scaled :=
  ⟨x.mantissa * Nat.pow 2 x.exponent.toNat * Nat.pow 5 (-x.exponent).toNat, min x.exponent 0⟩

/-- The shortest decimal of a positive magnitude. -/
def Magnitude.shortest (x : Magnitude) : Scaled :=
  let k := x.scale
  let found := (List.range 17).findSome? fun n => x.onGrid? (k - (n + 1 : Nat))
  (found.getD x.exact).strip

end Decimal
end PageLoom
