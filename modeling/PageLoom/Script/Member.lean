import PageLoom.Decimal.Notation
import PageLoom.Script.World
import PageLoom.Text.Units

set_option autoImplicit false

/-! # Members of values

Reading, writing and listing the members of values. Arrays keep their items apart from their named
members, and texts are read as if their units were members. -/

namespace PageLoom
namespace Script

/-- The index a member name stands for: decimal digits without needless zeros. -/
def indexOfKey? (key : Text) : Option Nat :=
  if key.isEmpty || !key.all (fun c => '0' ≤ c ∧ c ≤ '9') ||
      (key.head? = some '0' && key.length ≠ 1) then none
  else
    let n := Text.digitsValue key
    if n < 0xFFFFFFFF then some n else none

/-- The items of an array are indexed by naturals; more than this many do not fit. -/
def maxItems : Nat := 10000000

/-- Whether a value stands for nothing. -/
def Value.isNullish : Value → Bool
  | .undefined | .null => true
  | _ => false

/-- The whole number a float is, if it is a possible array length. -/
def lengthOf? (x : Float) : Option Nat :=
  match Decimal.whole? x with
  | some n => if 0 ≤ n ∧ n < 0x100000000 then some n.toNat else none
  | none => none

namespace Run

/-- A slot that assignments make. -/
def openSlot (v : Value) : Slot := ⟨v, true, true, true⟩

/-- The slots with one more, or with a new value for a known name. -/
def putSlot (key : Text) (s : Slot) : List (Text × Slot) → List (Text × Slot)
  | [] => [(key, s)]
  | (k, old) :: rest => if k = key then (k, s) :: rest else (k, old) :: putSlot key s rest

/-- A function's name as its member. -/
def functionName? : Kind → Option Text
  | .closure f _ => some f.name
  | .builtIn _ n | .host _ n => some n
  | _ => none

/-- A member of its own of the object at a place. -/
def own? (id : Nat) (key : Text) : Run (Option Slot) := do
  let o ← object id
  let named := (o.slots.find? (·.1 = key)).map (·.2)
  match o.kind with
  | .array items =>
      if key = "length".toList then return some ⟨.number items.size.toFloat, false, true, false⟩
      match indexOfKey? key with
      | some i => return (items[i]?.join).map openSlot
      | none => return named
  | kind =>
      if named.isNone && key = "name".toList then
        return (functionName? kind).map fun n => ⟨.text n, false, false, true⟩
      if named.isNone && key = "length".toList then
        match kind with
        | .closure f _ => return some ⟨.number f.parameters.length.toFloat, false, false, true⟩
        | _ => return none
      return named

/-- A member of the object at a place, or of one it inherits from. -/
def lookUp? : Nat → Nat → Text → Run (Option Value)
  | 0, _, _ => return none
  | fuel + 1, id, key => do
      match ← own? id key with
      | some s => return some s.value
      | none =>
          match (← object id).proto with
          | some parent => lookUp? fuel parent key
          | none => return none

/-- Longer than any chain of inheritance here. -/
def chainBound : Nat := 8

/-- A member of an object, `undefined` if there is none. -/
def getOf (id : Nat) (key : Text) : Run Value := do
  return (← lookUp? chainBound id key).getD .undefined

/-- A member of a text: its length, one of its units, or a function of all texts. -/
def getOfText (t : Text) (key : Text) : Run Value := do
  if key = "length".toList then return .number (Text.unitCount t).toFloat
  match indexOfKey? key with
  | some i =>
      match (Text.units t)[i]? with
      | some u => return .text (Text.ofUnits [u])
      | none => return .undefined
  | none => getOf Place.textProto key

/-- A member of a value. -/
def getMember (v : Value) (key : Text) : Run Value :=
  match v with
  | .undefined => typeError ("cannot read property '" ++ key ++ "' of undefined")
  | .null => typeError ("cannot read property '" ++ key ++ "' of null")
  | .bool _ => getOf Place.boolProto key
  | .number _ => getOf Place.numberProto key
  | .text t => getOfText t key
  | .object id => getOf id key

/-- Sets an item of an array; the places between are holes. -/
def setItem (id i : Nat) (v : Value) (items : Array (Option Value)) : Run Unit := do
  if maxItems ≤ i then fail "InternalError" "out of memory"
  let o ← object id
  let items :=
    if i < items.size then items.setIfInBounds i (some v)
    else (items ++ Array.replicate (i - items.size) none).push (some v)
  setObject id { o with kind := .array items }

/-- Cuts an array, or extends it with holes. -/
def setLength (id : Nat) (v : Value) (items : Array (Option Value)) : Run Unit := do
  match v with
  | .number x =>
      match lengthOf? x with
      | some n =>
          if maxItems ≤ n then fail "InternalError" "out of memory"
          let o ← object id
          let items := items.extract 0 n ++ Array.replicate (n - items.size) none
          setObject id { o with kind := .array items }
      | none => fail "RangeError" "invalid array length"
  | _ => fail "RangeError" "invalid array length"

/-- Sets a named member of an object. What cannot be written stays as it is; in strict code that is
    an error. -/
def setSlot (strict : Bool) (id : Nat) (key : Text) (v : Value) : Run Unit := do
  let o ← object id
  match o.slots.find? (·.1 = key) with
  | some (_, s) =>
      if s.writable then
        setObject id { o with slots := putSlot key { s with value := v } o.slots }
      else if strict then typeError ("'" ++ key ++ "' is read-only")
  | none => setObject id { o with slots := o.slots ++ [(key, openSlot v)] }

/-- Sets a member of an object. -/
def setOf (strict : Bool) (id : Nat) (key : Text) (v : Value) : Run Unit := do
  match ← items? id with
  | some items =>
      if key = "length".toList then setLength id v items
      else match indexOfKey? key with
        | some i => setItem id i v items
        | none => setSlot strict id key v
  | none => setSlot strict id key v

/-- Sets a member of a value; plain values keep no members. -/
def putMember (strict : Bool) (target : Value) (key : Text) (v : Value) : Run Unit :=
  match target with
  | .undefined => typeError ("cannot set property '" ++ key ++ "' of undefined")
  | .null => typeError ("cannot set property '" ++ key ++ "' of null")
  | .object id => setOf strict id key v
  | _ => if strict then typeError "not an object" else return

/-- Whether a value has a member, inherited ones included. -/
def has (id : Nat) (key : Text) : Run Bool := do return (← lookUp? chainBound id key).isSome

/-- The members of an object that can be listed: indices in ascending order, then names in the
    order they were added. -/
def listed (id : Nat) : Run (List (Text × Value)) := do
  let o ← object id
  let named := o.slots.filter (·.2.enumerable) |>.map fun s => (s.1, s.2.value)
  let numbered := (named.filter fun m => (indexOfKey? m.1).isSome).mergeSort fun a b =>
    (indexOfKey? a.1).getD 0 ≤ (indexOfKey? b.1).getD 0
  let rest := named.filter fun m => (indexOfKey? m.1).isNone
  match o.kind with
  | .array items =>
      let own := items.toList.zipIdx.filterMap fun (v, i) => v.map fun v => (Text.ofNat i, v)
      return own ++ numbered ++ rest
  | _ => return numbered ++ rest

/-- The listed members of any value. -/
def listedOf (v : Value) : Run (List (Text × Value)) :=
  match v with
  | .object id => listed id
  | .text t =>
      return (Text.units t).zipIdx.map fun (u, i) => (Text.ofNat i, .text (Text.ofUnits [u]))
  | _ => return []

/-- Whether a value can be called. -/
def isCallable (v : Value) : Run Bool := do
  match v with
  | .object id =>
      match (← object id).kind with
      | .closure .. | .builtIn .. | .host .. => return true
      | _ => return false
  | _ => return false

end Run
end Script
end PageLoom
