import PageLoom.Script.Tree

set_option autoImplicit false

/-! # The world of a script

Values, objects and scopes. Objects and scopes live in tables and are named by their place in
them, so that two names can share one object. A run either ends with a value or stops, and always
leaves its world behind: what a script did before it stopped stays done. -/

namespace PageLoom
namespace Script

/-- A value: objects are named by their place in the world. -/
inductive Value where
  | undefined
  | null
  | bool (b : Bool)
  | number (x : Float)
  | text (t : Text)
  | object (id : Nat)
  deriving Inhabited

/-- The functions every world begins with. -/
inductive BuiltIn where
  | stringOf | numberOf | booleanOf | objectOf | arrayOf
  | errorOf (kind : Text)
  | parseInt
  | arrayIsArray | objectKeys | jsonStringify | mathMax | mathFloor
  | objectToText | objectValue | objectHasOwn | functionToText | functionCall
  | errorToText | arrayToText | textValue | numberToText | numberValue | boolToText | boolValue
  | textRepeat | textUpper | textLower | textTrim | textSlice | textIndexOf | textIncludes
  | textSplit | textConcat
  | arraySlice | arrayIndexOf | arrayIncludes | arrayJoin | arrayMap | arrayFilter | arrayReduce
  | arrayForEach | arrayPush | arraySort | arrayConcat
  | numberToFixed

/-- Where a function stands: its scopes, innermost first, its `this`, and whether it is strict. -/
structure Frame where
  scopes : List Nat
  self : Value
  strict : Bool
  /-- The scope that takes variables; none at the level of the script, whose variables are members
      of the global object. -/
  varScope : Option Nat

/-- What a function of the host does when it is called. -/
inductive HostAction where
  | importStylesheet
  | importScript
  /-- Notes the call and returns a constant. -/
  | note (returns : Value)

/-- What kind of object an object is. -/
inductive Kind where
  | plain
  | error
  | array (items : Array (Option Value))
  | closure (f : Function) (frame : Frame)
  | builtIn (b : BuiltIn) (name : Text)
  | host (action : HostAction) (name : Text)

/-- A member of an object. -/
structure Slot where
  value : Value
  enumerable : Bool
  writable : Bool
  configurable : Bool

/-- An object: its members in the order they were added. -/
structure Object where
  kind : Kind
  proto : Option Nat
  slots : List (Text × Slot)

/-- A name of a scope: without a value until its declaration is reached. -/
structure Binding where
  value : Option Value
  mutable : Bool

/-- The names of a scope. -/
abbrev Scope := List (Text × Binding)

/-- What a script did to the page, or to the host, in order. -/
inductive Effect where
  | stylesheet (path : Text)
  | script (path : Text)
  | call (name : Text) (arguments : List Text)
  deriving DecidableEq

/-- How much a session may use. -/
structure Limits where
  /-- Steps of a single run. -/
  steps : Nat
  /-- Octets of a single text. -/
  memory : Option Nat

/-- The world of a session. -/
structure World where
  objects : Array Object
  scopes : Array Scope
  /-- The value of the last expression statement of the running script. -/
  last : Value
  /-- Steps left. -/
  budget : Nat
  /-- Calls under way. -/
  depth : Nat
  limits : Limits
  effects : List Effect

/-- Why a run stops without a value. -/
inductive Stop where
  | thrown (v : Value)
  /-- The steps are used up; no script can go on from this. -/
  | interrupted

/-- A run in a world. -/
abbrev Run := EStateM Stop World

/-! ## Objects with a fixed place -/

namespace Place

/-- The object that holds the names of the outermost level. -/
def global : Nat := 0
/-- What all objects inherit from. -/
def objectProto : Nat := 1
/-- What functions inherit from. -/
def functionProto : Nat := 2
/-- What arrays inherit from. -/
def arrayProto : Nat := 3
/-- What texts inherit from. -/
def textProto : Nat := 4
/-- What numbers inherit from. -/
def numberProto : Nat := 5
/-- What truth values inherit from. -/
def boolProto : Nat := 6
/-- What errors inherit from. -/
def errorProto : Nat := 7
/-- The prototype of each kind of error. -/
def errorKinds : List (Text × Nat) :=
  [("Error", 7), ("TypeError", 8), ("RangeError", 9), ("ReferenceError", 10), ("SyntaxError", 11),
   ("InternalError", 12)].map fun k => (k.1.toList, k.2)

/-- The scope of names that scripts declare at their top level. -/
def topScope : Nat := 0

end Place

namespace Run

/-- The object at a place. -/
def object (id : Nat) : Run Object := do
  return (← get).objects.getD id ⟨.plain, none, []⟩

/-- Puts an object in its place. -/
def setObject (id : Nat) (o : Object) : Run Unit :=
  modify fun w => { w with objects := w.objects.setIfInBounds id o }

/-- A new object, and its place. -/
def alloc (o : Object) : Run Nat := do
  let id := (← get).objects.size
  modify fun w => { w with objects := w.objects.push o }
  return id

/-- A new object without members. -/
def allocPlain : Run Nat := alloc ⟨.plain, some Place.objectProto, []⟩

/-- A new array. -/
def allocArray (items : Array (Option Value)) : Run Value :=
  Value.object <$> alloc ⟨.array items, some Place.arrayProto, []⟩

/-- A new array without holes. -/
def list (values : List Value) : Run Value := allocArray (values.map some).toArray

/-- The items of an array object. -/
def items? (id : Nat) : Run (Option (Array (Option Value))) := do
  match (← object id).kind with
  | .array items => return some items
  | _ => return none

/-- A new scope. -/
def allocScope (s : Scope) : Run Nat := do
  let id := (← get).scopes.size
  modify fun w => { w with scopes := w.scopes.push s }
  return id

/-- The scope at a place. -/
def scope (id : Nat) : Run Scope := do return (← get).scopes.getD id []

/-- Puts a scope in its place. -/
def setScope (id : Nat) (s : Scope) : Run Unit :=
  modify fun w => { w with scopes := w.scopes.setIfInBounds id s }

/-- Records an effect. -/
def effect (e : Effect) : Run Unit := modify fun w => { w with effects := w.effects ++ [e] }

/-! ## Errors -/

/-- A new error of a kind. -/
def allocError (kind message : Text) : Run Value := do
  let proto := ((Place.errorKinds.find? (·.1 = kind)).map (·.2)).getD Place.errorProto
  Value.object <$> alloc
    ⟨.error, some proto, [("message", ⟨.text message, false, true, true⟩)]⟩

/-- Throws a new error. -/
def fail {α : Type} (kind message : Text) : Run α := do
  throw (.thrown (← allocError kind message))

/-- Fails because a value is of the wrong kind. -/
def typeError {α : Type} (message : Text) : Run α := fail "TypeError" message

/-- Fails because a name has no value. -/
def referenceError {α : Type} (message : Text) : Run α := fail "ReferenceError" message

/-- A run whose thrown value is returned beside its result. -/
def attempt {α : Type} (run : Run α) : Run (Except Value α) := do
  tryCatch (Except.ok <$> run) fun
    | .thrown v => return .error v
    | .interrupted => throw .interrupted

/-! ## Limits -/

/-- One step. -/
def tick : Run Unit := do
  let w ← get
  match w.budget with
  | 0 => throw .interrupted
  | n + 1 => set { w with budget := n }

/-- The most calls under way at once. -/
def maxDepth : Nat := 400

/-- A run inside one more call. -/
def deeper {α : Type} (run : Run α) : Run α := do
  if maxDepth ≤ (← get).depth then fail "InternalError" "stack overflow"
  modify fun w => { w with depth := w.depth + 1 }
  let result ← attempt run
  modify fun w => { w with depth := w.depth - 1 }
  match result with
  | .ok a => return a
  | .error v => throw (.thrown v)

/-- Refuses a text of that many octets if it does not fit. -/
def reserve (octets : Nat) : Run Unit := do
  match (← get).limits.memory with
  | some limit => if limit ≤ octets then fail "InternalError" "out of memory"
  | none => return

end Run
end Script
end PageLoom
