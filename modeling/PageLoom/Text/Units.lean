import PageLoom.Text.Basic

set_option autoImplicit false

/-! # Sixteen-bit units

Scripts measure and cut texts in units of sixteen bits: a character beyond the first 65536 takes a
pair of them. A unit of a pair that stands alone has no character and is shown as U+FFFD. -/

namespace PageLoom
namespace Text

/-- The units of one character. -/
def charUnits (c : Char) : List Nat :=
  let n := c.toNat
  if n < 0x10000 then [n] else [0xD800 + (n - 0x10000) / 0x400, 0xDC00 + (n - 0x10000) % 0x400]

/-- The units of a text. -/
def units (t : Text) : List Nat := t.flatMap charUnits

/-- The number of units of a text. -/
def unitCount (t : Text) : Nat := t.foldl (fun n c => n + if c.toNat < 0x10000 then 1 else 2) 0

/-- First unit of a pair. -/
def isHigh (n : Nat) : Bool := 0xD800 ≤ n && n < 0xDC00

/-- Second unit of a pair. -/
def isLow (n : Nat) : Bool := 0xDC00 ≤ n && n < 0xE000

/-- The text of some units; numbers beyond sixteen bits stand for their character. -/
def ofUnits : List Nat → Text
  | [] => []
  | [n] => [if isHigh n || isLow n then '\uFFFD' else Char.ofNat n]
  | a :: b :: rest =>
      if isHigh a && isLow b then
        Char.ofNat (0x10000 + (a - 0xD800) * 0x400 + (b - 0xDC00)) :: ofUnits rest
      else (if isHigh a || isLow a then '\uFFFD' else Char.ofNat a) :: ofUnits (b :: rest)

/-- Compares texts unit by unit. -/
def unitsBefore : List Nat → List Nat → Bool
  | [], _ :: _ => true
  | _, [] => false
  | a :: s, b :: t => if a = b then unitsBefore s t else a < b

end Text
end PageLoom
