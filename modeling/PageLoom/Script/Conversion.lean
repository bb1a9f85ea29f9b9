import PageLoom.Decimal.Reading
import PageLoom.Script.Member
import PageLoom.Script.Token

set_option autoImplicit false

/-! # Conversions between values

An object is converted by calling its own functions, so every conversion takes the way to call one
as an argument. -/

namespace PageLoom
namespace Script

/-- How a function is called: the function, its `this`, its arguments. -/
abbrev Caller := Value → Value → List Value → Run Value

/-- The text without the blanks of scripts at its ends. -/
def trimSpace (t : Text) : Text := Text.dropEndWhile Token.isSpace (t.dropWhile Token.isSpace)

/-- The number a text stands for: blanks around it are passed over, and the empty text is zero. -/
def numberOfText (t : Text) : Float :=
  let nan : Float := 0.0 / 0.0
  let decimal (negative : Bool) (t : Text) : Float :=
    let sign (x : Float) : Float := if negative then -x else x
    if t = "Infinity".toList then sign (1.0 / 0.0)
    else match Decimal.takeUnsigned? t with
      | some u => if u.rest.isEmpty then sign u.toFloat else nan
      | none => nan
  match trimSpace t with
  | [] => 0.0
  | '0' :: c :: rest =>
      match Token.baseOf? c with
      | some base =>
          let (digits, after) := Token.takeBase base rest
          if digits.isEmpty || !after.isEmpty then nan
          else Decimal.toFloat (Token.baseValue base digits) 0
      | none => decimal false ('0' :: c :: rest)
  | '-' :: rest => decimal true rest
  | '+' :: rest => decimal false rest
  | t => decimal false t

/-- The number at the front of a text, in a base. -/
def leadingNumber (base : Nat) (t : Text) : Float :=
  let t := trimSpace t
  let (negative, t) := Decimal.takeSign t
  let (base, t) := match t with
    | '0' :: x :: rest =>
        if (x = 'x' ∨ x = 'X') ∧ (base = 0 ∨ base = 16) then (16, rest) else (base, t)
    | t => (base, t)
  let base := if base = 0 then 10 else base
  let digit? (c : Char) : Option Nat :=
    let n := if 'a' ≤ c ∧ c ≤ 'z' then c.toNat - 'a'.toNat + 10
      else if 'A' ≤ c ∧ c ≤ 'Z' then c.toNat - 'A'.toNat + 10
      else if '0' ≤ c ∧ c ≤ '9' then c.toNat - '0'.toNat
      else 36
    if n < base then some n else none
  let digits := t.takeWhile fun c => (digit? c).isSome
  if base < 2 ∨ 36 < base ∨ digits.isEmpty then 0.0 / 0.0
  else
    let x := Decimal.toFloat (digits.foldl (fun n c => base * n + (digit? c).getD 0) 0) 0
    if negative then -x else x

/-- The name of a value's type. -/
def Run.typeOf (v : Value) : Run Text := do
  match v with
  | .undefined => return "undefined"
  | .null => return "object"
  | .bool _ => return "boolean"
  | .number _ => return "number"
  | .text _ => return "string"
  | .object _ => return if ← isCallable v then "function" else "object"

/-- Whether a value counts as true. -/
def Value.truthy : Value → Bool
  | .undefined | .null => false
  | .bool b => b
  | .number x => !(x == 0.0 || x.isNaN)
  | .text t => !t.isEmpty
  | .object _ => true

/-- What a plain conversion of an object begins with. -/
inductive Preference where
  | text | number

namespace Run

/-- The first of some functions of an object that gives a plain value. -/
def firstPlain (call : Caller) (v : Value) : List Text → Run Value
  | [] => typeError "toPrimitive"
  | name :: rest => do
      let f ← getMember v name
      if ← isCallable f then
        match ← call f v [] with
        | .object _ => firstPlain call v rest
        | plain => return plain
      else firstPlain call v rest

/-- A value that is no object. -/
def toPlain (call : Caller) (prefer : Preference) (v : Value) : Run Value :=
  match v with
  | .object _ =>
      firstPlain call v <| match prefer with
        | .text => ["toString".toList, "valueOf".toList]
        | .number => ["valueOf".toList, "toString".toList]
  | v => return v

/-- The text of a value that is no object. -/
def plainText : Value → Text
  | .undefined => "undefined"
  | .null => "null"
  | .bool b => if b then "true" else "false"
  | .number x => numberText x
  | .text t => t
  | .object _ => []

/-- The number of a value that is no object. -/
def plainNumber : Value → Float
  | .undefined | .object _ => 0.0 / 0.0
  | .null => 0.0
  | .bool b => if b then 1.0 else 0.0
  | .number x => x
  | .text t => numberOfText t

/-- The text of a value. -/
def toText (call : Caller) (v : Value) : Run Text := do
  return plainText (← toPlain call .text v)

/-- The number of a value. -/
def toNumber (call : Caller) (v : Value) : Run Float := do
  return plainNumber (← toPlain call .number v)

/-- A number without its fraction; NaN is zero, and what lies far outside is cut off. -/
def truncate (x : Float) : Int :=
  if x.isNaN then 0
  else if x ≥ 1e18 then 1000000000000000000
  else if x ≤ -1e18 then -1000000000000000000
  else if x < 0 then -((-x).floor.toUInt64.toNat : Int)
  else x.floor.toUInt64.toNat

/-- The number of a value, without its fraction. -/
def toInt (call : Caller) (v : Value) : Run Int := do return truncate (← toNumber call v)

/-- An offset into something of that length, counted from its end when negative. -/
def toOffset (call : Caller) (length : Nat) (default : Nat) (v : Value) : Run Nat := do
  match v with
  | .undefined => return default
  | v =>
      let n ← toInt call v
      return if n < 0 then (length + n).toNat else min n.toNat length

/-- Texts joined, if the result fits. -/
def joinTexts (pieces : List Text) (separator : Text) : Run Text := do
  let t := Text.join separator pieces
  reserve t.length
  return t

/-! ## Operators -/

/-- Equality without conversion. -/
def same (a b : Value) : Bool :=
  match a, b with
  | .undefined, .undefined | .null, .null => true
  | .bool x, .bool y => x = y
  | .number x, .number y => x == y
  | .text s, .text t => s = t
  | .object i, .object j => i = j
  | _, _ => false

/-- Equality of plain values of different types: numbers decide, and nothing equals only
    nothing. -/
def alikePlain (a b : Value) : Bool :=
  if a.isNullish || b.isNullish then a.isNullish && b.isNullish
  else match a, b with
    | .text s, .text t => s = t
    | a, b => plainNumber a == plainNumber b

/-- Equality with conversion. -/
def alike (call : Caller) (a b : Value) : Run Bool := do
  match a, b with
  | .object i, .object j => return i = j
  | .object _, b =>
      if b.isNullish then return false
      return alikePlain (← toPlain call .number a) b
  | a, .object _ =>
      if a.isNullish then return false
      return alikePlain a (← toPlain call .number b)
  | a, b => return alikePlain a b

/-- The order of two values: texts by units, anything else by numbers. -/
def compare (call : Caller) (text : List Nat → List Nat → Bool) (number : Float → Float → Bool)
    (a b : Value) : Run Value := do
  let a ← toPlain call .number a
  let b ← toPlain call .number b
  match a, b with
  | .text s, .text t => return .bool (text (Text.units s) (Text.units t))
  | a, b => return .bool (number (plainNumber a) (plainNumber b))

/-- A sum: texts are joined. -/
def add (call : Caller) (a b : Value) : Run Value := do
  let a ← toPlain call .number a
  let b ← toPlain call .number b
  match a, b with
  | .text s, b => .text <$> joinTexts [s, plainText b] []
  | a, .text t => .text <$> joinTexts [plainText a, t] []
  | a, b => return .number (plainNumber a + plainNumber b)

/-- A power; with an infinite exponent, a base of magnitude one has none. -/
def power (x y : Float) : Float :=
  if y.isNaN || (y.isInf && x.abs == 1.0) then 0.0 / 0.0 else x.pow y

/-- An operation on two numbers. -/
def arithmetic (call : Caller) (f : Float → Float → Float) (a b : Value) : Run Value := do
  let x ← toNumber call a
  let y ← toNumber call b
  return .number (f x y)

/-- The value of a binary operator. -/
def binary (call : Caller) (op : Binary) (a b : Value) : Run Value :=
  match op with
  | .add => add call a b
  | .sub => arithmetic call (· - ·) a b
  | .mul => arithmetic call (· * ·) a b
  | .div => arithmetic call (· / ·) a b
  | .rem => arithmetic call Decimal.remainder a b
  | .pow => arithmetic call power a b
  | .less => compare call Text.unitsBefore (· < ·) a b
  | .greater => compare call (fun s t => Text.unitsBefore t s) (· > ·) a b
  | .lessEq => compare call (fun s t => !Text.unitsBefore t s) (· ≤ ·) a b
  | .greaterEq => compare call (fun s t => !Text.unitsBefore s t) (· ≥ ·) a b
  | .equal => .bool <$> alike call a b
  | .notEqual => (fun r => .bool !r) <$> alike call a b
  | .same => return .bool (same a b)
  | .notSame => return .bool !(same a b)
  | .isMember => do
      match b with
      | .object id => return .bool (← has id (← toText call a))
      | _ => typeError "invalid 'in' operand"

/-! ## Items -/

/-- The values a spread or a loop goes through: the items of an array, the characters of a
    text. -/
def elements (v : Value) : Run (List Value) := do
  match v with
  | .undefined => typeError "cannot read property 'Symbol.iterator' of undefined"
  | .null => typeError "cannot read property 'Symbol.iterator' of null"
  | .text t => return t.map fun c => .text [c]
  | .object id =>
      match ← items? id with
      | some items => return items.toList.map (·.getD .undefined)
      | none => typeError "value is not iterable"
  | _ => typeError "value is not iterable"

end Run
end Script
end PageLoom
