import PageLoom.Json.Reader
import PageLoom.Manifest

set_option autoImplicit false

/-! # Manifests in JSON

An entry has to tell its file; its other members may be left out, and members of other names are
passed over. -/

namespace PageLoom

namespace ManifestEntry

/-- The texts that stand for `false` and for `true`, in any case. -/
def falseTexts : List Text := ["0", "off", "f", "false", "n", "no"].map String.toList
/-- The texts that stand for true. -/
def trueTexts : List Text := ["1", "on", "t", "true", "y", "yes"].map String.toList

/-- A truth value, or one of the numbers and texts that stand for one. -/
def checkBool : Json → Checked Bool
  | .bool b => .ok b
  | .text t =>
      if falseTexts.contains (Text.asciiLower t) then .ok false
      else if trueTexts.contains (Text.asciiLower t) then .ok true
      else Checked.issue .boolParsing
  | .int n =>
      if n = 0 then .ok false
      else if n = 1 then .ok true
      else if -0x8000000000000000 ≤ n ∧ n < 0x8000000000000000 then Checked.issue .boolParsing
      else Checked.issue .boolType
  | .float x =>
      if x == 0.0 then .ok false else if x == 1.0 then .ok true else Checked.issue .boolType
  | _ => Checked.issue .boolType

/-- A member under the first of its names that is given. -/
def firstMember? (names : List Text) (members : List (Text × Json)) : Option (Text × Json) :=
  names.findSome? fun n => (member? n members).map fun j => (n, j)

/-- A member, or a default when it is not given. -/
def optional {α : Type} (names : List String) (check : Json → Checked α) (default : α)
    (members : List (Text × Json)) : Checked α :=
  match firstMember? (names.map String.toList) members with
  | some (n, j) => Checked.under (.member n) (check j)
  | none => .ok default

/-- The file, which has to be given. -/
def checkFile (members : List (Text × Json)) : Checked Text :=
  Checked.under (.member "file") <| match member? "file".toList members with
    | some j => Checked.text j
    | none => Checked.issue .missing

/-- An entry in JSON data. Members of other names are passed over. -/
def check : Json → Checked ManifestEntry
  | .object members =>
      Checked.both
        (Checked.both
          (Checked.both ((checkFile members).map ManifestEntry.mk)
            (optional ["src"] Checked.text [] members))
          (optional ["isEntry", "is_entry"] checkBool false members))
        (optional ["css"] Checked.texts [] members)
  | _ => Checked.issue .modelType

end ManifestEntry

namespace Manifest

/-- A manifest in JSON data. -/
def check : Json → Checked Manifest
  | .object members =>
      Checked.all <| members.map fun (name, j) =>
        Checked.under (.member name) ((ManifestEntry.check j).map fun e => (name, e))
  | _ => Checked.issue .dictType

/-- How deep the arrays and objects of a manifest may stand inside each other. -/
def nesting : Nat := 200

/-- The manifest that a text writes. -/
def ofText (t : Text) : Checked Manifest :=
  match Json.readWithin? nesting t with
  | some j => check j
  | none => Checked.issue .jsonInvalid

/-- The reader of JSON. -/
def jsonReader : Reader := fun t => (ofText t).mapError Rejection.ofIssues

end Manifest
end PageLoom
