import PageLoom.Script.Serial
import PageLoom.Text.Case

set_option autoImplicit false

/-! # The functions every world begins with

What each of them does with its `this` and its arguments, and the world that holds them. -/

namespace PageLoom
namespace Script
namespace BuiltIn

/-- The function's argument at a place. -/
def arg (arguments : List Value) (i : Nat) : Value := arguments.getD i .undefined

/-- The name of the type that an object shows. -/
def tagOf (v : Value) : Run Text := do
  match v with
  | .undefined => return "[object Undefined]"
  | .null => return "[object Null]"
  | .bool _ => return "[object Boolean]"
  | .number _ => return "[object Number]"
  | .text _ => return "[object String]"
  | .object id =>
      match (← Run.object id).kind with
      | .plain => return "[object Object]"
      | .error => return "[object Error]"
      | .array _ => return "[object Array]"
      | _ => return "[object Function]"

/-- The text of a function: its source, or a remark in place of one. -/
def functionText (v : Value) : Run Text := do
  let native (name : Text) : Text :=
    "function " ++ name ++ "() \x7b\n    [native code]\n\x7d"
  match v with
  | .object id =>
      match (← Run.object id).kind with
      | .closure f _ => return f.source
      | .builtIn _ name | .host _ name => return native name
      | _ => Run.typeError "not a function"
  | _ => Run.typeError "not a function"

/-- The text a function of texts works on. -/
def ownText (call : Caller) (self : Value) : Run Text := do
  if self.isNullish then Run.typeError "null or undefined are forbidden"
  Run.toText call self

/-- The items a function of arrays works on. -/
def ownItems (self : Value) : Run (List (Option Value)) := do
  match self with
  | .object id => return ((← Run.items? id).getD #[]).toList
  | v => if v.isNullish then Run.typeError "cannot convert to object" else return []

/-- Items with their indices, holes left out. -/
def present (items : List (Option Value)) : List (Value × Nat) :=
  items.zipIdx.filterMap fun (v, i) => v.map fun v => (v, i)

/-- Refuses what cannot be called. -/
def expectCallable (f : Value) : Run Unit := do
  unless ← Run.isCallable f do Run.typeError "not a function"

/-- A new error with the given message. -/
def makeError (call : Caller) (kind : Text) (arguments : List Value) : Run Value := do
  match arg arguments 0 with
  | .undefined =>
      let proto := ((Place.errorKinds.find? (·.1 = kind)).map (·.2)).getD Place.errorProto
      Value.object <$> Run.alloc ⟨.error, some proto, []⟩
  | message => Run.allocError kind (← Run.toText call message)

/-- A new array: of the given items, or of that many holes. -/
def makeArray (arguments : List Value) : Run Value := do
  match arguments with
  | [.number x] =>
      match lengthOf? x with
      | some n =>
          if maxItems ≤ n then Run.fail "InternalError" "out of memory"
          Run.allocArray (Array.replicate n none)
      | none => Run.fail "RangeError" "invalid array length"
  | items => Run.list items

/-! ## Texts -/

/-- The units `i ≤ · < j` of a text, as a text. -/
def cut (t : Text) (i j : Nat) : Text := Text.ofUnits (((Text.units t).take j).drop i)

/-- Offset, in units, of the first occurrence at or after a start. -/
def findUnits? (needle units : List Nat) (start : Nat) : Option Nat :=
  ((List.range (units.length + 1)).drop start).find? fun i => needle.isPrefixOf (units.drop i)

/-- The pieces of some units between occurrences of a mark. -/
def splitUnits (mark : List Nat) : Nat → List Nat → List Nat → List (List Nat)
  | 0, piece, rest => [piece.reverse ++ rest]
  | _, piece, [] => [piece.reverse]
  | fuel + 1, piece, u :: rest =>
      if mark.isPrefixOf (u :: rest) then
        piece.reverse :: splitUnits mark fuel [] ((u :: rest).drop mark.length)
      else splitUnits mark fuel (u :: piece) rest

/-- The pieces of a text: without a mark the whole text, with an empty one its units. -/
def split (call : Caller) (t : Text) (arguments : List Value) : Run Value := do
  let units := Text.units t
  let pieces ← match arg arguments 0 with
    | .undefined => pure [units]
    | mark => do
        let mark := Text.units (← Run.toText call mark)
        pure <| if mark.isEmpty then units.map fun u => [u]
          else splitUnits mark (units.length + 1) [] units
  let count ← Run.toOffset call pieces.length pieces.length (arg arguments 1)
  Run.list ((pieces.take count).map fun p => .text (Text.ofUnits p))

/-- A text repeated. -/
def repeated (call : Caller) (t : Text) (count : Value) : Run Value := do
  let n ← Run.toInt call count
  if n < 0 ∨ 0x80000000 ≤ n then Run.fail "RangeError" "invalid repeat count"
  let size := n.toNat * t.length
  if 0x40000000 ≤ size then Run.fail "InternalError" "string too long"
  Run.reserve size
  return .text (Text.times n.toNat t)

/-! ## Arrays -/

/-- Items joined by a separator; nothing is written for holes and for nothing. -/
def joinItems (call : Caller) (items : List (Option Value)) (separator : Text) : Run Value := do
  let pieces ← items.mapM fun item => do
    let v := item.getD .undefined
    if v.isNullish then return [] else Run.toText call v
  .text <$> Run.joinTexts pieces separator

/-- The items for which a function holds. -/
def filterItems (call : Caller) (f self : Value) (items : List (Value × Nat)) : Run Value := do
  let kept ← items.filterM fun (v, i) => do
    return (← call f .undefined [v, .number i.toFloat, self]).truthy
  Run.list (kept.map (·.1))

/-- The items folded from the left. -/
def reduceItems (call : Caller) (f self : Value) (arguments : List Value)
    (items : List (Value × Nat)) : Run Value := do
  let step (acc : Value) (item : Value × Nat) : Run Value :=
    call f .undefined [acc, item.1, .number item.2.toFloat, self]
  match arguments, items with
  | _ :: start :: _, items => items.foldlM step start
  | _, (first, _) :: rest => rest.foldlM step first
  | _, [] => Run.typeError "empty array"

/-- An item put behind all items that do not come after it. -/
def insert (after : Value → Value → Run Bool) (v : Value) : List Value → Run (List Value)
  | [] => return [v]
  | w :: rest => do
      if ← after w v then return w :: (← insert after v rest) else return v :: w :: rest

/-- Items in order: by the given function or by their texts, `undefined` behind all others. Items
    of the same rank keep their order. -/
def sortItems (call : Caller) (f : Value) (items : List Value) : Run (List Value) := do
  let isUndefined : Value → Bool
    | .undefined => true
    | _ => false
  let values := items.filter (¬ isUndefined ·)
  let notAfter (a b : Value) : Run Bool := do
    match f with
    | .undefined =>
        let s ← Run.toText call a
        let t ← Run.toText call b
        return !Text.unitsBefore (Text.units t) (Text.units s)
    | f => return !((← Run.toNumber call (← call f .undefined [a, b])) > 0.0)
  let sorted ← values.foldlM (fun done v => do
    -- inserted from the end, so that an equal item stays in front
    return (← insert (fun w v => do return !(← notAfter w v)) v done.reverse).reverse) []
  return sorted ++ items.filter isUndefined

/-- Sorts an array in its place, holes last. -/
def sort (call : Caller) (self f : Value) : Run Value := do
  match f with
  | .undefined => pure ()
  | f => expectCallable f
  let items ← ownItems self
  let sorted ← sortItems call f (items.filterMap id)
  match self with
  | .object id =>
      let o ← Run.object id
      let holes := items.length - sorted.length
      Run.setObject id { o with
        kind := .array (sorted.map some ++ List.replicate holes none).toArray }
  | _ => pure ()
  return self

/-- Appends items to an array. -/
def push (self : Value) (arguments : List Value) : Run Value := do
  match self with
  | .object id =>
      match ← Run.items? id with
      | some items =>
          let o ← Run.object id
          let items := items ++ (arguments.map some).toArray
          Run.setObject id { o with kind := .array items }
          return .number items.size.toFloat
      | none => Run.typeError "not an array"
  | _ => Run.typeError "not an array"

/-- The items of an array behind others; other values stand for themselves. -/
def concatItems (vs : List Value) : Run (List (Option Value)) := do
  let parts ← vs.mapM fun v => do
    match v with
    | .object id =>
        match ← Run.items? id with
        | some items => return items.toList
        | none => return [some v]
    | v => return [some v]
  return parts.flatten

/-! ## Numbers -/

/-- The largest of some numbers. -/
def largest (xs : List Float) : Float :=
  xs.foldl (fun m x =>
    if m.isNaN || x.isNaN then 0.0 / 0.0
    else if x > m || (x == 0.0 && m == 0.0 && 1.0 / m < 0.0) then x
    else m) (-1.0 / 0.0)

/-- A number with a set count of decimals. -/
def fixed (call : Caller) (self places : Value) : Run Value := do
  let n ← Run.toInt call places
  if n < 0 ∨ 100 < n then Run.fail "RangeError" "invalid number of digits"
  match self with
  | .number x => return .text (Decimal.writeFixed n.toNat x)
  | _ => Run.typeError "not a number"

/-- The blank that JSON is indented with. -/
def gapOf : Value → Text
  | .number x => List.replicate (min 10 (Run.truncate x).toNat) ' '
  | .text t => t.take 10
  | _ => []

/-! ## All of them -/

/-- Calls a function of the beginning; `Function.prototype.call` and the conversions call on. -/
def run (call : Caller) (b : BuiltIn) (self : Value) (arguments : List Value) : Run Value := do
  let first := arg arguments 0
  match b with
  | .stringOf => if arguments.isEmpty then return .text [] else .text <$> Run.toText call first
  | .numberOf =>
      if arguments.isEmpty then return .number 0.0 else .number <$> Run.toNumber call first
  | .booleanOf => return .bool first.truthy
  | .objectOf =>
      match first with
      | .object id => return .object id
      | _ => .object <$> Run.allocPlain
  | .arrayOf => makeArray arguments
  | .errorOf kind => makeError call kind arguments
  | .parseInt =>
      let t ← Run.toText call first
      let base ← Run.toInt call (arg arguments 1)
      return .number (leadingNumber (if base < 0 then 1 else base.toNat) t)
  | .arrayIsArray =>
      match first with
      | .object id => return .bool (← Run.items? id).isSome
      | _ => return .bool false
  | .objectKeys =>
      if first.isNullish then Run.typeError "cannot convert to object"
      Run.list ((← Run.listedOf first).map fun m => .text m.1)
  | .jsonStringify =>
      let form ← Serial.write? call (gapOf (arg arguments 2)) Serial.depth [] [] [] first
      return form.elim .undefined .text
  | .mathMax => return .number (largest (← arguments.mapM (Run.toNumber call)))
  | .mathFloor => return .number (← Run.toNumber call first).floor
  | .objectToText => .text <$> tagOf self
  | .objectValue => return self
  | .objectHasOwn =>
      match self with
      | .object id => return .bool (← Run.own? id (← Run.toText call first)).isSome
      | _ => return .bool false
  | .functionToText => .text <$> functionText self
  | .functionCall => call self first (arguments.drop 1)
  | .errorToText =>
      let part (name : String) (default : Text) : Run Text := do
        match ← Run.getMember self name with
        | .undefined => return default
        | v => Run.toText call v
      let name ← part "name" "Error"
      let message ← part "message" []
      return .text (if name.isEmpty then message
        else if message.isEmpty then name
        else name ++ ": " ++ message)
  | .arrayToText =>
      let join ← Run.getMember self "join"
      if ← Run.isCallable join then call join self [] else .text <$> tagOf self
  | .textValue => .text <$> ownText call self
  | .numberToText | .boolToText => .text <$> Run.toText call self
  | .numberValue | .boolValue => return self
  | .textRepeat => repeated call (← ownText call self) first
  | .textUpper => return .text (Text.upper (← ownText call self))
  | .textLower => return .text (Text.lower (← ownText call self))
  | .textTrim => return .text (trimSpace (← ownText call self))
  | .textSlice =>
      let t ← ownText call self
      let size := Text.unitCount t
      let i ← Run.toOffset call size 0 first
      let j ← Run.toOffset call size size (arg arguments 1)
      return .text (cut t i j)
  | .textIndexOf =>
      let t ← ownText call self
      let needle ← Run.toText call first
      let start := max 0 (← Run.toInt call (arg arguments 1))
      let units := Text.units t
      let found := findUnits? (Text.units needle) units (min start.toNat units.length)
      return .number <| match found with
        | some i => i.toFloat
        | none => -1.0
  | .textIncludes =>
      let t ← ownText call self
      let needle ← Run.toText call first
      let start := max 0 (← Run.toInt call (arg arguments 1))
      return .bool (findUnits? (Text.units needle) (Text.units t) start.toNat).isSome
  | .textSplit => split call (← ownText call self) arguments
  | .textConcat =>
      let t ← ownText call self
      let rest ← arguments.mapM (Run.toText call)
      .text <$> Run.joinTexts (t :: rest) []
  | .arraySlice =>
      let items ← ownItems self
      let i ← Run.toOffset call items.length 0 first
      let j ← Run.toOffset call items.length items.length (arg arguments 1)
      Run.allocArray ((items.take j).drop i).toArray
  | .arrayIndexOf =>
      let items ← ownItems self
      let start ← Run.toOffset call items.length 0 (arg arguments 1)
      match (present items).find? fun (v, i) => start ≤ i && Run.same v first with
      | some (_, i) => return .number i.toFloat
      | none => return .number (-1.0)
  | .arrayIncludes =>
      let items ← ownItems self
      let start ← Run.toOffset call items.length 0 (arg arguments 1)
      return .bool <| (items.drop start).any fun v =>
        match v.getD .undefined, first with
        | .number x, .number y => x == y || (x.isNaN && y.isNaN)
        | v, w => Run.same v w
  | .arrayJoin =>
      let items ← ownItems self
      let separator ← match first with
        | .undefined => pure [',']
        | v => Run.toText call v
      joinItems call items separator
  | .arrayMap =>
      expectCallable first
      let items ← ownItems self
      let mapped ← items.zipIdx.mapM fun (item, i) => do
        match item with
        | none => return none
        | some v => some <$> call first (arg arguments 1) [v, .number i.toFloat, self]
      Run.allocArray mapped.toArray
  | .arrayFilter => expectCallable first; filterItems call first self (present (← ownItems self))
  | .arrayReduce =>
      expectCallable first
      reduceItems call first self arguments (present (← ownItems self))
  | .arrayForEach =>
      expectCallable first
      for (v, i) in present (← ownItems self) do
        let _ ← call first (arg arguments 1) [v, .number i.toFloat, self]
      return .undefined
  | .arrayPush => push self arguments
  | .arraySort => sort call self first
  | .arrayConcat => Run.allocArray (← concatItems (self :: arguments)).toArray
  | .numberToFixed => fixed call self first

/-! ## The world -/

/-- The functions of each object of the beginning, by the object's place. -/
def members : List (Nat × List (String × BuiltIn)) :=
  [(Place.objectProto, [("toString", .objectToText), ("valueOf", .objectValue),
      ("hasOwnProperty", .objectHasOwn)]),
   (Place.functionProto, [("toString", .functionToText), ("call", .functionCall)]),
   (Place.arrayProto, [("toString", .arrayToText), ("slice", .arraySlice),
      ("indexOf", .arrayIndexOf), ("includes", .arrayIncludes), ("join", .arrayJoin),
      ("map", .arrayMap), ("filter", .arrayFilter), ("reduce", .arrayReduce),
      ("forEach", .arrayForEach), ("push", .arrayPush), ("sort", .arraySort),
      ("concat", .arrayConcat)]),
   (Place.textProto, [("toString", .textValue), ("valueOf", .textValue), ("repeat", .textRepeat),
      ("toUpperCase", .textUpper), ("toLowerCase", .textLower), ("trim", .textTrim),
      ("slice", .textSlice), ("indexOf", .textIndexOf), ("includes", .textIncludes),
      ("split", .textSplit), ("concat", .textConcat)]),
   (Place.numberProto, [("toString", .numberToText), ("valueOf", .numberValue),
      ("toFixed", .numberToFixed)]),
   (Place.boolProto, [("toString", .boolToText), ("valueOf", .boolValue)]),
   (Place.errorProto, [("toString", .errorToText)]),
   (Place.global, [("parseInt", .parseInt)])]

/-- The functions of the beginning that make values, with the prototype of what they make. -/
def makers : List (Text × BuiltIn × Nat) :=
  [("String".toList, .stringOf, Place.textProto), ("Number".toList, .numberOf, Place.numberProto),
   ("Boolean".toList, .booleanOf, Place.boolProto), ("Object".toList, .objectOf, Place.objectProto),
   ("Array".toList, .arrayOf, Place.arrayProto)] ++
    Place.errorKinds.map fun (kind, proto) => (kind, .errorOf kind, proto)

/-- A slot that listings leave out. -/
def quietSlot (v : Value) : Slot := ⟨v, false, true, true⟩

/-- A slot that stays as it is. -/
def fixedSlot (v : Value) : Slot := ⟨v, false, false, false⟩

/-- Adds a slot to an object. -/
def addSlot (id : Nat) (name : Text) (s : Slot) : Run Unit := do
  let o ← Run.object id
  Run.setObject id { o with slots := Run.putSlot name s o.slots }

/-- Adds a function to an object. -/
def addFunction (id : Nat) (name : Text) (b : BuiltIn) : Run Nat := do
  let f ← Run.alloc ⟨.builtIn b name, some Place.functionProto, []⟩
  addSlot id name (quietSlot (.object f))
  return f

/-- Fills the objects of the beginning. -/
def fill : Run Unit := do
  for (id, functions) in members do
    for (name, b) in functions do
      let _ ← addFunction id name b
  for (name, b, proto) in makers do
    let f ← addFunction Place.global name b
    addSlot f "prototype" (fixedSlot (.object proto))
    addSlot proto "constructor" (quietSlot (.object f))
    if name = "Array".toList then let _ ← addFunction f "isArray" .arrayIsArray
    if name = "Object".toList then let _ ← addFunction f "keys" .objectKeys
  for (kind, proto) in Place.errorKinds do
    addSlot proto "name" (quietSlot (.text kind))
    addSlot proto "message" (quietSlot (.text []))
  let json ← Run.allocPlain
  let _ ← addFunction json "stringify" .jsonStringify
  addSlot Place.global "JSON" (quietSlot (.object json))
  let math ← Run.allocPlain
  let _ ← addFunction math "max" .mathMax
  let _ ← addFunction math "floor" .mathFloor
  addSlot Place.global "Math" (quietSlot (.object math))
  addSlot Place.global "globalThis" (quietSlot (.object Place.global))
  addSlot Place.global "undefined" (fixedSlot .undefined)
  addSlot Place.global "NaN" (fixedSlot (.number (0.0 / 0.0)))
  addSlot Place.global "Infinity" (fixedSlot (.number (1.0 / 0.0)))

/-- The objects of the beginning before they are filled: each prototype behind its parent. -/
def blanks : Array Object :=
  let plain (proto : Nat) : Object := ⟨.plain, some proto, []⟩
  #[plain Place.objectProto, ⟨.plain, none, []⟩, plain Place.objectProto,
    ⟨.array #[], some Place.objectProto, []⟩, plain Place.objectProto, plain Place.objectProto,
    plain Place.objectProto, plain Place.objectProto, plain Place.errorProto,
    plain Place.errorProto, plain Place.errorProto, plain Place.errorProto, plain Place.errorProto]

/-- The world a session begins with. -/
def world (limits : Limits) : World :=
  let blank : World := ⟨blanks, #[[]], .undefined, limits.steps, 0, limits, []⟩
  match fill.run blank with
  | .ok _ w => w
  | .error _ w => w

end BuiltIn
end Script
end PageLoom
