import PageLoom.Json.Basic
import PageLoom.Script.Conversion

set_option autoImplicit false

/-! # The JSON form of values

How a session writes a value as JSON: a value may bring its own form under `toJSON`, what has no
form is left out of objects and is `null` in arrays, and a value inside itself is refused. -/

namespace PageLoom
namespace Script
namespace Serial

/-- One character inside quotes: only control characters and the marks of texts are escaped. -/
def writeChar (c : Char) : Text :=
  if c = '"' ∨ c = '\\' ∨ c.toNat < 0x20 then Json.writeChar c else [c]

/-- A quoted text. -/
def writeText (t : Text) : Text := '"' :: t.flatMap writeChar ++ ['"']

/-- A form between brackets: on one line, or with each part on a line of its own. -/
def enclose (opening closing : Char) (gap indent : Text) (parts : List Text) : Text :=
  if parts.isEmpty then [opening, closing]
  else if gap.isEmpty then opening :: Text.join "," parts ++ [closing]
  else
    let newLine := '\n' :: indent
    opening :: (newLine ++ gap) ++ Text.join (',' :: newLine ++ gap) parts ++ newLine ++ [closing]

/-- The value that is written for a value: what its `toJSON` gives. -/
def represent (call : Caller) (key : Text) (v : Value) : Run Value := do
  match v with
  | .object _ =>
      let f ← Run.getMember v "toJSON"
      if ← Run.isCallable f then call f v [.text key] else return v
  | _ => return v

/-- The JSON form of a value, if it has one. `within` holds the objects around it. -/
def write? (call : Caller) (gap : Text) :
    Nat → List Nat → Text → Text → Value → Run (Option Text)
  | 0, _, _, _, _ => Run.fail "InternalError" "stack overflow"
  | fuel + 1, within, indent, key, v => do
      match ← represent call key v with
      | .undefined => return none
      | .null => return some "null"
      | .bool b => return some (if b then "true" else "false")
      | .number x => return some (if x.isFinite then numberText x else "null")
      | .text t => return some (writeText t)
      | .object id =>
          if ← Run.isCallable (.object id) then return none
          if within.contains id then Run.typeError "circular reference"
          let deeper := indent ++ gap
          match ← Run.items? id with
          | some items =>
              let parts ← items.toList.zipIdx.mapM fun (item, i) => do
                let part ← write? call gap fuel (id :: within) deeper (Text.ofNat i)
                  (item.getD .undefined)
                return part.getD "null"
              return some (enclose '[' ']' gap indent parts)
          | none =>
              let parts ← (← Run.listed id).filterMapM fun (name, value) => do
                let part ← write? call gap fuel (id :: within) deeper name value
                return part.map fun p =>
                  writeText name ++ ':' :: (if gap.isEmpty then p else ' ' :: p)
              return some (enclose '\x7b' '\x7d' gap indent parts)

/-- Deeper than values nest. -/
def depth : Nat := 400

/-- The JSON form on one line. -/
def compact? (call : Caller) (v : Value) : Run (Option Text) := write? call [] depth [] [] [] v

end Serial
end Script
end PageLoom
