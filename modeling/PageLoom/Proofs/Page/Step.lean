import PageLoom.Page.Compile
import PageLoom.Proofs.Stateful

set_option autoImplicit false

/-! # Steps of a compile

When a step succeeds, with what result, and in which state it leaves the compile. A step made of
others succeeds exactly when each of them does (`gives_bind_iff`), so that the steps of a compile
are taken apart by rewriting. -/

namespace PageLoom
namespace Page

variable {σ α β : Type}

/-- From the state `p`, the step succeeds with `a` and leaves the state `q`. -/
def Gives (x : Step σ α) (p : Progress σ) (a : α) (q : Progress σ) : Prop :=
  outcome x p = (.ok a, q)

/-! ## Any steps -/

theorem outcome_eq (x : Step σ α) (p : Progress σ) : outcome x p = Stateful.outcome x p := rfl

theorem outcome_pure (a : α) (p : Progress σ) : outcome (pure a) p = (.ok a, p) := rfl

theorem outcome_throw (fault : CompileFault) (p : Progress σ) :
    outcome (throw fault : Step σ α) p = (.error fault, p) := rfl

theorem outcome_bind (x : Step σ α) (f : α → Step σ β) (p : Progress σ) :
    outcome (x >>= f) p =
      match outcome x p with
      | (.ok a, q) => outcome (f a) q
      | (.error fault, q) => (.error fault, q) := by
  rw [outcome_eq, outcome_eq x, Stateful.outcome_bind]
  rcases Stateful.outcome x p with ⟨fault | a, q⟩ <;> rfl

theorem outcome_tryCatch (x : Step σ α) (f : CompileFault → Step σ α) (p : Progress σ) :
    outcome (tryCatch x f) p =
      match outcome x p with
      | (.ok a, q) => (.ok a, q)
      | (.error fault, q) => outcome (f fault) q := by
  rw [outcome_eq, outcome_eq x, Stateful.outcome_tryCatch]
  rcases Stateful.outcome x p with ⟨fault | a, q⟩ <;> rfl

theorem gives_pure_iff (a b : α) (p q : Progress σ) :
    Gives (pure a) p b q ↔ b = a ∧ q = p :=
  Stateful.gives_pure_iff

theorem gives_bind_iff (x : Step σ α) (f : α → Step σ β) (p r : Progress σ) (b : β) :
    Gives (x >>= f) p b r ↔ ∃ a q, Gives x p a q ∧ Gives (f a) q b r :=
  Stateful.gives_bind_iff

theorem not_gives_throw (fault : CompileFault) (p q : Progress σ) (a : α) :
    ¬ Gives (throw fault : Step σ α) p a q :=
  Stateful.not_gives_throw

/-- Renaming a failure changes no success. -/
theorem gives_tryCatch_throw_iff (x : Step σ α) (f : CompileFault → CompileFault)
    (p q : Progress σ) (a : α) :
    Gives (tryCatch x fun fault => throw (f fault)) p a q ↔ Gives x p a q :=
  Stateful.gives_tryCatch_iff fun _ _ => Stateful.not_gives_throw

/-! ## The steps a compile is made of -/

theorem gives_note_iff (entry : Entry) (p q : Progress σ) (u : Unit) :
    Gives (note entry) p u q ↔ q = { p with notes := p.notes ++ [entry] } := by
  have h : outcome (note entry) p = (.ok (), { p with notes := p.notes ++ [entry] }) := rfl
  simp [Gives, h, eq_comm]

theorem gives_ask_iff (request : σ → Reply α × σ) (p q : Progress σ)
    (result : Except Engine.Fault α) :
    Gives (ask request) p result q ↔
      ∃ imports s, request p.engine = (⟨result, imports⟩, s) ∧
        q = { p with engine := s, recorded := p.recorded.append imports } := by
  have h : outcome (ask request) p =
      (.ok (request p.engine).1.result,
        { p with
          engine := (request p.engine).2
          recorded := p.recorded.append (request p.engine).1.imports }) := rfl
  unfold Gives
  rw [h]
  constructor
  · rintro ⟨⟩
    exact ⟨_, _, rfl, rfl⟩
  · rintro ⟨imports, s, hrequest, rfl⟩
    rw [hrequest]

theorem gives_recorded_iff (p q : Progress σ) (imports : Imports) :
    Gives recorded p imports q ↔ imports = p.recorded ∧ q = p := by
  have h : outcome recorded p = (.ok p.recorded, p) := rfl
  simp [Gives, h, eq_comm]

theorem gives_resultOf_iff (report : Text → PageError) (result : Except Engine.Fault α)
    (p q : Progress σ) (a : α) :
    Gives (resultOf report result) p a q ↔ result = .ok a ∧ q = p := by
  cases result with
  | error fault => simp [resultOf, not_gives_throw]
  | ok b => simp [resultOf, gives_pure_iff, eq_comm]

end Page
end PageLoom
