import PageLoom.Json.Basic

set_option autoImplicit false

/-! # Validation issues

What is wrong with a piece of data from outside, and where: a path of member names and item numbers
and the kind of issue. Issues are reported in the order of the fields. -/

namespace PageLoom

/-- One step into a piece of data. -/
inductive DataStep where
  | member (name : Text)
  | item (index : Nat)
  deriving DecidableEq, Repr

/-- The kinds of issue. -/
inductive IssueKind where
  | missing
  | extraForbidden
  | jsonInvalid
  | stringType
  | stringUnicode
  | listType
  | dictType
  | modelType
  | boolType
  | boolParsing
  | intType
  | intParsing
  | intFromFloat
  | finiteNumber
  | floatParsing
  deriving DecidableEq, Repr

/-- The name under which an issue is reported. -/
def IssueKind.code : IssueKind → Text
  | .missing => "missing"
  | .extraForbidden => "extra_forbidden"
  | .jsonInvalid => "json_invalid"
  | .stringType => "string_type"
  | .stringUnicode => "string_unicode"
  | .listType => "list_type"
  | .dictType => "dict_type"
  | .modelType => "model_type"
  | .boolType => "bool_type"
  | .boolParsing => "bool_parsing"
  | .intType => "int_type"
  | .intParsing => "int_parsing"
  | .intFromFloat => "int_from_float"
  | .finiteNumber => "finite_number"
  | .floatParsing => "float_parsing"

/-- An issue and its place. -/
structure Issue where
  location : List DataStep
  kind : IssueKind
  deriving DecidableEq, Repr

/-- The issue seen from outside a step. -/
def Issue.under (step : DataStep) (i : Issue) : Issue := { i with location := step :: i.location }

/-- An issue in one line. -/
def Issue.line (i : Issue) : Text :=
  let step : DataStep → Text
    | .member name => name
    | .item index => Text.ofNat index
  Text.join "." (i.location.map step) ++ ": " ++ i.kind.code

/-- What a validator says against a piece of data: where it has issues and their codes, and the
    report of them. -/
structure Rejection where
  issues : List (List DataStep × Text)
  report : Text
  deriving DecidableEq, Repr

/-- Issues that are reported line by line. -/
def Rejection.ofIssues (issues : List Issue) : Rejection :=
  ⟨issues.map fun i => (i.location, i.kind.code), Text.join "\n" (issues.map Issue.line)⟩

/-- The result of a validation: the value, or every issue found. -/
abbrev Checked (α : Type) := Except (List Issue) α

namespace Checked

/-- One issue at the value itself. -/
def issue {α : Type} (kind : IssueKind) : Checked α := .error [⟨[], kind⟩]

/-- The result seen from outside a step. -/
def under {α : Type} (step : DataStep) (c : Checked α) : Checked α :=
  c.mapError (·.map (Issue.under step))

/-- A function's result applied to another result, with the issues of both. -/
def both {α β : Type} (f : Checked (α → β)) (x : Checked α) : Checked β :=
  match f, x with
  | .ok f, .ok x => .ok (f x)
  | .ok _, .error issues => .error issues
  | .error issues, .ok _ => .error issues
  | .error first, .error second => .error (first ++ second)

/-- The items' results, with the issues of all. -/
def all {α : Type} : List (Checked α) → Checked (List α)
  | [] => .ok []
  | c :: rest => both (c.map List.cons) (all rest)

/-- A text in JSON data. -/
def text : Json → Checked Text
  | .text t => .ok t
  | _ => issue .stringType

/-- A list of texts in JSON data. -/
def texts : Json → Checked (List Text)
  | .array items => all (items.mapIdx fun i item => under (.item i) (text item))
  | _ => issue .listType

end Checked
end PageLoom
