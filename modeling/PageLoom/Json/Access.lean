import PageLoom.Json.Basic

set_option autoImplicit false

/-! # Looking into JSON

Members of objects, items of arrays and the values of scalars. What is not there, or is of another
kind, is nothing, or the empty value of the kind. -/

namespace PageLoom
namespace Json

/-- A member of an object. -/
def get? (j : Json) (name : String) : Option Json :=
  match j with
  | .object members => member? name members
  | _ => none

/-- A member of an object, or `null`. -/
def get (j : Json) (name : String) : Json := (get? j name).getD .null

/-- Whether an object has a member. -/
def has (j : Json) (name : String) : Bool := (get? j name).isSome

/-- The value of a text. -/
def asText? : Json → Option Text
  | .text t => some t
  | _ => none

/-- The value of a text, or the empty text. -/
def asText (j : Json) : Text := (asText? j).getD []

/-- The value of an integer. -/
def asInt? : Json → Option Int
  | .int n => some n
  | _ => none

/-- The value of an integer, or of a boolean as one, or zero. -/
def asInt : Json → Int
  | .int n => n
  | .bool b => if b then 1 else 0
  | _ => 0

/-- The value of a number as a float, or zero. -/
def asFloat : Json → Float
  | .float x => x
  | .int n => Decimal.ofInt n
  | _ => 0.0

/-- Whether a value counts as true: it is neither `null`, nor false, nor zero, nor empty. -/
def asBool : Json → Bool
  | .bool b => b
  | .int n => n != 0
  | .float x => x != 0.0
  | .text t => !t.isEmpty
  | .array items => !items.isEmpty
  | .object members => !members.isEmpty
  | .null => false

/-- The items of an array. -/
def items : Json → List Json
  | .array items => items
  | _ => []

/-- The members of an object. -/
def members : Json → List (Text × Json)
  | .object members => members
  | _ => []

/-- The text of a member. -/
def field? (j : Json) (name : String) : Option Text := asText? (get j name)

/-- The text of a member, or the empty text. -/
def field (j : Json) (name : String) : Text := asText (get j name)

end Json
end PageLoom
