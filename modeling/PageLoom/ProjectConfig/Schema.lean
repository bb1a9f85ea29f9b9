import PageLoom.ProjectConfig
import PageLoom.Yaml.Value

set_option autoImplicit false

/-! # Configurations in YAML

Every field may be left out or hold nothing; texts may be written by octets, and integers by what
stands for one. -/

namespace PageLoom
namespace ProjectConfig

/-- A text, or octets that write one, or nothing. -/
def checkText : Yaml.Value → Checked (Option Text)
  | .null => .ok none
  | .text t => .ok (some t)
  | .octets content =>
      match Utf8.decode content with
      | .ok t => .ok (some t)
      | .error _ => Checked.issue .stringUnicode
  | _ => Checked.issue .stringType

/-- The integer that a text writes. -/
def checkNumeral (t : Text) : Checked (Option Int) :=
  match Decimal.readInt? t with
  | some n => .ok (some n)
  | none => Checked.issue .intParsing

/-- An integer, or what stands for one, or nothing. -/
def checkInt : Yaml.Value → Checked (Option Int)
  | .null => .ok none
  | .int n => .ok (some n)
  | .bool b => .ok (some (if b then 1 else 0))
  | .float x =>
      if ¬ x.isFinite then Checked.issue .finiteNumber
      else match Decimal.whole? x with
        | some n =>
            if -0x8000000000000000 < n ∧ n < 0x8000000000000000 then .ok (some n)
            else Checked.issue .intParsing
        | none => Checked.issue .intFromFloat
  | .text t => checkNumeral t
  | .octets content =>
      match Utf8.decode content with
      | .ok t => checkNumeral t
      | .error _ => Checked.issue .intParsing
  | _ => Checked.issue .intType

/-- A field, or nothing when it is not given. -/
def field {α : Type} (name : String) (check : Yaml.Value → Checked (Option α))
    (members : List (Text × Yaml.Value)) : Checked (Option α) :=
  match member? name.toList members with
  | some v => Checked.under (.member name) (check v)
  | none => .ok none

/-- The issues of fields that are not known. -/
def strangers (members : List (Text × Yaml.Value)) : List Issue :=
  (members.filter fun m => ¬ fieldNames.contains m.1).map fun m =>
    ⟨[.member m.1], .extraForbidden⟩

/-- The configuration of a mapping. -/
def check (members : List (Text × Yaml.Value)) : Checked ProjectConfig :=
  let known := Checked.both
    (Checked.both ((field "vite_dir" checkText members).map ProjectConfig.mk)
      (field "port" checkInt members))
    (field "vite_dev_url" checkText members)
  match known, strangers members with
  | .ok c, [] => .ok c
  | .ok _, issues => .error issues
  | .error first, issues => .error (first ++ issues)

/-- A document of YAML. Of equal keys the last one counts. -/
def documentOf : Yaml.Value → Document Yaml.Value
  | .null => .nothing
  | .dict entries => .mapping <| entries.foldl (fun known (key, value) =>
      match key with
      | .text k => putNamed k value known
      | _ => known ++ [(none, value)]) []
  | _ => .other
where
  putNamed (k : Text) (value : Yaml.Value) :
      List (Option Text × Yaml.Value) → List (Option Text × Yaml.Value)
    | [] => [(some k, value)]
    | (key, old) :: rest =>
        if key = some k then (key, value) :: rest else (key, old) :: putNamed k value rest

/-- What a fault of YAML is for a document. -/
def documentFault (fault : Yaml.Fault) : DocumentFault :=
  match fault with
  | .malformed => .malformed fault.message
  | _ => .escaped fault.kind fault.message

/-- The reader of YAML. -/
def yamlReader : Reader where
  Value := Yaml.Value
  document octets :=
    match Utf8.decode octets with
    | .error fault => .error (.escaped "UnicodeDecodeError" fault.message)
    | .ok t => ((Yaml.Value.read (Text.unifyLineEnds t)).mapError documentFault).map documentOf
  validate members := (check members).mapError Rejection.ofIssues

end ProjectConfig
end PageLoom
