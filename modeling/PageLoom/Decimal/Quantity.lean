import PageLoom.Decimal.Binary

set_option autoImplicit false

/-! # Quantities

A measured number as it was given: whole, or with a fraction. -/

namespace PageLoom

/-- A number as it was given. -/
inductive Quantity where
  | whole (n : Int)
  | real (x : Float)

namespace Quantity

/-- The number itself. -/
def toFloat : Quantity → Float
  | whole n => Decimal.ofInt n
  | real x => x

/-- Whether the number is greater than zero. -/
def isPositive (q : Quantity) : Bool := 0.0 < q.toFloat

end Quantity
end PageLoom
