import PageLoom.Directive
import PageLoom.PageError
import PageLoom.Settings

set_option autoImplicit false

/-! # Engines

What a compile asks of a script engine: to run the declarations and to evaluate expressions, one
after the other in a state of the engine's own. Every answer comes with the imports that the
scripts made meanwhile. A compile works with any engine; which one is at hand is up to a host. -/

namespace PageLoom

/-- Paths that scripts imported, each list in the order of the calls. -/
structure Imports where
  stylesheets : List Text
  scripts : List Text
  deriving DecidableEq, Repr

namespace Imports

/-- No imports. -/
def none : Imports := ⟨[], []⟩

/-- Imports one after the other. -/
def append (a b : Imports) : Imports := ⟨a.stylesheets ++ b.stylesheets, a.scripts ++ b.scripts⟩

/-- The imports of one kind. -/
def ofKind : AssetKind → List Text → Imports
  | .stylesheet, paths => ⟨paths, []⟩
  | .script, paths => ⟨[], paths⟩

/-- All imports of a list, in its order. -/
def concat (all : List Imports) : Imports := all.foldr append none

/-- What came after `before`, which the imports begin with. -/
def since (before all : Imports) : Imports :=
  ⟨all.stylesheets.drop before.stylesheets.length, all.scripts.drop before.scripts.length⟩

@[simp] theorem none_append (a : Imports) : none.append a = a := rfl

@[simp] theorem append_none (a : Imports) : a.append none = a := by
  simp [append, none]

theorem append_assoc (a b c : Imports) : (a.append b).append c = a.append (b.append c) := by
  simp [append]

@[simp] theorem since_append (before more : Imports) : before.since (before.append more) = more := by
  simp [since, append]

theorem concat_append (all more : List Imports) :
    concat (all ++ more) = (concat all).append (concat more) := by
  induction all with
  | nil => rfl
  | cons a rest ih =>
      have htail : concat (a :: rest ++ more) = a.append ((concat rest).append (concat more)) :=
        congrArg a.append ih
      rw [htail, ← append_assoc]
      rfl

theorem stylesheets_concat (all : List Imports) :
    (concat all).stylesheets = all.flatMap (·.stylesheets) := by
  induction all with
  | nil => rfl
  | cons a rest ih => exact congrArg (a.stylesheets ++ ·) ih

theorem scripts_concat (all : List Imports) : (concat all).scripts = all.flatMap (·.scripts) := by
  induction all with
  | nil => rfl
  | cons a rest ih => exact congrArg (a.scripts ++ ·) ih

end Imports

/-- Why an engine has no answer to a script. -/
inductive Engine.Fault where
  /-- The script could not be read, or it stopped: what the engine reports. -/
  | stopped (report : Text)
  /-- The engine itself broke down: the kind of failure, and what it tells. -/
  | escaped (kind report : Text)
  deriving DecidableEq

/-- An engine's answer: its result, and what was imported until it had one. -/
structure Reply (α : Type) where
  result : Except Engine.Fault α
  imports : Imports

/-- A script engine with states of type `σ`. -/
structure Engine (σ : Type) where
  declare : Text → σ → Reply Unit × σ
  evaluate : Text → σ → Reply Text × σ

namespace Engine

/-- The engine that also keeps the texts of all scripts handed to it. -/
def recording {σ : Type} (engine : Engine σ) : Engine (σ × List Text) where
  declare code s :=
    let (reply, t) := engine.declare code s.1
    (reply, t, s.2 ++ [code])
  evaluate code s :=
    let (reply, t) := engine.evaluate code s.1
    (reply, t, s.2 ++ [code])

end Engine

/-- What provides engines. Every compile has one to itself. How it begins is decided by the
    settings; a clock or chance that scripts can ask for differs from one file's compile to
    another's. -/
structure EngineHost where
  State : Type
  engine : Engine State
  start : Settings → Text → State

end PageLoom
