import PageLoom.Decimal.Reading
import PageLoom.Json.Basic
import PageLoom.Log
import PageLoom.PageValue
import PageLoom.Placeholder

set_option autoImplicit false

/-! # Connected verbosity

Whose verbosity counts: that of the state connected in the running thread, or else that of the
state connected last by any thread, or else none. A state may give its verbosity as a number or as
the text of one; one that gives nothing counts as zero. -/

namespace PageLoom
namespace Log

/-- Why a verbosity is none. -/
inductive VerbosityFault where
  /-- A text that is no integer. -/
  | notInteger (t : Text)
  | nan
  | infinite
  /-- Neither a number nor a text. -/
  | notNumber
  deriving DecidableEq, Repr

/-- The report of a fault. -/
def VerbosityFault.message : VerbosityFault → Text
  | .notInteger t => "invalid literal for int() with base 10: " ++ PageValue.declareText t
  | .nan => "cannot convert float NaN to integer"
  | .infinite => "cannot convert float infinity to integer"
  | .notNumber => []

/-- The verbosity that a state gives. -/
def verbosityOf : Json → Except VerbosityFault Int
  | .null => .ok 0
  | .bool b => .ok (if b then 1 else 0)
  | .int n => .ok n
  | .float x =>
      match Decimal.Binary.ofFloat x with
      | .nan => .error .nan
      | .infinite _ => .error .infinite
      | .finite negative magnitude => .ok (Decimal.signed negative magnitude.floor)
  | .text [] => .ok 0
  | .text t =>
      match Decimal.readInteger? t with
      | some n => .ok n
      | none => .error (.notInteger t)
  | .array [] | .object [] => .ok 0
  | _ => .error .notNumber

/-- The states that are connected: in the main thread, and by any thread last. -/
structure Connection where
  own : Option Json
  shared : Option Json

namespace Connection

/-- Nothing is connected. -/
def none : Connection := ⟨.none, .none⟩

/-- The state connected from the main thread, or from another one. -/
def connect (c : Connection) (fromMain : Bool) (state : Json) : Connection :=
  ⟨if fromMain then some state else c.own, some state⟩

/-- The verbosity in the main thread, or in a new one. -/
def verbosity (c : Connection) (inMain : Bool) : Except VerbosityFault Int :=
  match (if inMain then c.own else .none).or c.shared with
  | some state => verbosityOf state
  | .none => .ok 0

end Connection

/-- Why a note is not made. -/
inductive NoteFault where
  | verbosity (fault : VerbosityFault)
  | noSeverity (name : Text)
  | pattern (fault : Placeholder.Fault)

/-- The report of a fault. -/
def NoteFault.message : NoteFault → Text
  | .verbosity fault => fault.message
  | .noSeverity name => "Level '" ++ name ++ "' does not exist"
  | .pattern fault => fault.message

/-- Makes a note, if the verbosity shows it. Its text is a pattern only when there is something to
    fill in. -/
def note (verbosity : Except VerbosityFault Int) (message : Text) (level : Int) (severity : Text)
    (fields : List (Text × Argument)) : Except NoteFault (Option Entry) := do
  let v ← verbosity.mapError .verbosity
  if v < level then return none
  match Severity.ofName? severity with
  | none => throw (.noSeverity severity)
  | some s =>
      let shown ← if fields.isEmpty then pure message
        else (Placeholder.fill fields message).mapError .pattern
      return some ⟨s, level, shown⟩

end Log
end PageLoom
