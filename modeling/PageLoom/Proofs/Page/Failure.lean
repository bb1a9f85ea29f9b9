import PageLoom.Proofs.Page.Loop
import PageLoom.Proofs.Placeholder

set_option autoImplicit false

/-! # How a compile fails

The counterpart of the course of a compile: a source that does not parse, declarations that fail, or
one marker that fails while all markers behind it were worked off. The first of these that comes is
the fault of the compile (`throws_compile_iff`), so a compile fails exactly along a `Breakdown`. -/

namespace PageLoom
namespace Page

open Template

variable {σ α β : Type}

/-- From the state `p`, the step fails with `fault` and leaves the engine in the state `s`. -/
def Throws (x : Step σ α) (p : Progress σ) (fault : CompileFault) (s : σ) : Prop :=
  (outcome x p).1 = .error fault ∧ (outcome x p).2.engine = s

/-! ## Any steps -/

theorem not_throws_of_gives {x : Step σ α} {p q : Progress σ} {a : α} (h : Gives x p a q)
    (fault : CompileFault) (s : σ) : ¬ Throws x p fault s := by
  rintro ⟨hfault, -⟩
  rw [h] at hfault
  cases hfault

/-- A step succeeds or fails. -/
theorem gives_or_throws (x : Step σ α) (p : Progress σ) :
    (∃ a q, Gives x p a q) ∨ ∃ fault s, Throws x p fault s := by
  unfold Gives Throws
  rcases outcome x p with ⟨fault | a, q⟩
  · exact Or.inr ⟨fault, q.engine, rfl, rfl⟩
  · exact Or.inl ⟨a, q, rfl⟩

theorem throws_throw_iff (cause fault : CompileFault) (p : Progress σ) (s : σ) :
    Throws (throw cause : Step σ α) p fault s ↔ fault = cause ∧ s = p.engine := by
  simp [Throws, outcome_throw, eq_comm]

theorem throws_bind_iff (x : Step σ α) (f : α → Step σ β) (p : Progress σ) (fault : CompileFault)
    (s : σ) :
    Throws (x >>= f) p fault s ↔
      Throws x p fault s ∨ ∃ a q, Gives x p a q ∧ Throws (f a) q fault s := by
  unfold Throws Gives
  rw [outcome_bind]
  rcases outcome x p with ⟨cause | a, q⟩
  · simp
  · constructor
    · exact fun h => Or.inr ⟨a, q, rfl, h⟩
    · rintro (⟨⟨⟩, _⟩ | ⟨a', q', ⟨⟩, h⟩)
      exact h

theorem throws_tryCatch_throw_iff (x : Step σ α) (f : CompileFault → CompileFault)
    (p : Progress σ) (fault : CompileFault) (s : σ) :
    Throws (tryCatch x fun cause => throw (f cause)) p fault s ↔
      ∃ cause, Throws x p cause s ∧ fault = f cause := by
  unfold Throws
  rw [outcome_tryCatch]
  rcases outcome x p with ⟨cause | a, q⟩
  · simp [outcome_throw, eq_comm, and_comm]
  · simp

/-! ## The steps a compile is made of -/

theorem not_throws_pure (a : α) (p : Progress σ) (fault : CompileFault) (s : σ) :
    ¬ Throws (pure a : Step σ α) p fault s :=
  not_throws_of_gives ((gives_pure_iff a a p p).2 ⟨rfl, rfl⟩) fault s

theorem not_throws_note (entry : Entry) (p : Progress σ) (fault : CompileFault) (s : σ) :
    ¬ Throws (note entry) p fault s :=
  not_throws_of_gives ((gives_note_iff entry p _ ()).2 rfl) fault s

theorem not_throws_ask (request : σ → Reply α × σ) (p : Progress σ) (fault : CompileFault) (s : σ) :
    ¬ Throws (ask request) p fault s :=
  not_throws_of_gives ((gives_ask_iff request p _ _).2 ⟨_, _, rfl, rfl⟩) fault s

theorem not_throws_recorded (p : Progress σ) (fault : CompileFault) (s : σ) :
    ¬ Throws recorded p fault s :=
  not_throws_of_gives ((gives_recorded_iff p p _).2 ⟨rfl, rfl⟩) fault s

theorem throws_resultOf_iff (report : Text → PageError) (result : Except Engine.Fault α)
    (p : Progress σ) (fault : CompileFault) (s : σ) :
    Throws (resultOf report result) p fault s ↔
      ∃ f, result = .error f ∧ fault = .ofScript report f ∧ s = p.engine := by
  cases result with
  | error f => simp [resultOf, throws_throw_iff]
  | ok a => simp [resultOf, not_throws_pure]

/-! ## The course of a failure -/

/-- Working off the marker `e` fails with `fault` and leaves the engine in the state `s'`. A
    directive fails if its tag cannot be filled, any other marker if its script fails. -/
inductive Fails (engine : Engine σ) (c : Context) (e : Expression) :
    σ → CompileFault → σ → Prop where
  | directive {s : σ} {call : Directive.Call} {d : Directive} {f : Placeholder.Fault}
      (hmatch : c.registry.match? e.raw = some (call, d))
      (htag : d.render (AssetUrl.resolve c.cwd call.path c.file c.options) = .error f) :
      Fails engine c e s (.tag f) s
  | script {s s' : σ} {f : Engine.Fault} {imports : Imports}
      (hmatch : c.registry.match? e.raw = none)
      (hevaluate : engine.evaluate e.raw s = (⟨.error f, imports⟩, s')) :
      Fails engine c e s (.ofScript (.failedExpression e.raw) f) s'

/-- Where all tags can be filled, only scripts fail. -/
theorem Fails.of_renders {engine : Engine σ} {c : Context} {e : Expression} {s s' : σ}
    {fault : CompileFault} (h : Fails engine c e s fault s') (hrenders : c.registry.Renders) :
    ∃ f imports, c.registry.match? e.raw = none ∧
      engine.evaluate e.raw s = (⟨.error f, imports⟩, s') ∧
      fault = .ofScript (.failedExpression e.raw) f := by
  cases h with
  | @directive call d f hmatch htag =>
      obtain ⟨tag, hok⟩ :=
        hrenders e.raw call d hmatch (AssetUrl.resolve c.cwd call.path c.file c.options)
      cases htag.symm.trans hok
  | script hmatch hevaluate => exact ⟨_, _, hmatch, hevaluate, rfl⟩

/-- The course of a compile that fails. -/
inductive Breakdown (engine : Engine σ) (c : Context) (source : Text) (s : σ) :
    CompileFault → σ → Prop where
  /-- A marker or the block is not closed; the engine is not asked for anything. -/
  | unclosed {e : PageError} (hparse : parse source = .error e) :
      Breakdown engine c source s (.page e) s
  /-- The declarations fail, and no marker is worked off. -/
  | declarations {t : Template} {f : Engine.Fault} {imports : Imports} {s' : σ}
      (hparse : parse source = .ok t) (hcode : t.declarations ≠ [])
      (hdeclare : engine.declare t.declarations s = (⟨.error f, imports⟩, s')) :
      Breakdown engine c source s (.ofScript .failedDeclarations f) s'
  /-- A marker fails. Those behind it were worked off, and those before it never are. -/
  | marker {t : Template} {declared : Imports} {before behind : List Expression} {e : Expression}
      {ws : List Worked} {fault : CompileFault} {s' s'' s''' : σ}
      (hparse : parse source = .ok t) (hdeclares : Declares engine t.declarations s declared s')
      (hmarkers : t.expressions = before ++ e :: behind)
      (hworks : WorksOff engine c behind s' ws s'') (hfails : Fails engine c e s'' fault s''') :
      Breakdown engine c source s fault s'''

/-! ## Steps along it -/

theorem throws_declarations_iff (engine : Engine σ) (code : Text) (p : Progress σ)
    (fault : CompileFault) (s : σ) :
    Throws (declarations engine code) p fault s ↔
      code ≠ [] ∧ ∃ f imports, engine.declare code p.engine = (⟨.error f, imports⟩, s) ∧
        fault = .ofScript .failedDeclarations f := by
  unfold declarations
  cases code with
  | nil => simp [not_throws_recorded]
  | cons a rest =>
      simp only [List.isEmpty_cons, Bool.false_eq_true, not_false_eq_true, if_true, throws_bind_iff,
        not_throws_ask, not_throws_recorded, and_false, exists_false, or_false, false_or,
        gives_ask_iff, throws_resultOf_iff, ne_eq, reduceCtorEq, true_and]
      constructor
      · rintro ⟨_, _, ⟨imports, s', hdeclare, rfl⟩, f, rfl, rfl, rfl⟩
        exact ⟨f, imports, hdeclare, rfl⟩
      · rintro ⟨f, imports, hdeclare, rfl⟩
        exact ⟨_, _, ⟨imports, s, hdeclare, rfl⟩, f, rfl, rfl, rfl⟩

/-- A step of the loop fails exactly if its marker does. -/
theorem throws_replacement_iff (engine : Engine σ) (c : Context) (e : Expression) (p : Progress σ)
    (fault : CompileFault) (s : σ) :
    Throws (replacement engine c e) p fault s ↔ Fails engine c e p.engine fault s := by
  unfold replacement
  cases hmatch : c.registry.match? e.raw with
  | some found =>
      obtain ⟨call, d⟩ := found
      unfold directive
      simp only [throws_bind_iff, not_throws_note, gives_note_iff, false_or]
      constructor
      · rintro ⟨_, _, rfl, hthrows⟩
        cases htag : d.render (AssetUrl.resolve c.cwd call.path c.file c.options) with
        | ok tag => simp [htag, not_throws_pure] at hthrows
        | error f =>
            simp only [htag, throws_throw_iff] at hthrows
            obtain ⟨rfl, rfl⟩ := hthrows
            exact .directive hmatch htag
      · intro hfails
        cases hfails with
        | directive hmatch' htag =>
            obtain ⟨rfl, rfl⟩ := Prod.mk.inj (Option.some.inj (hmatch.symm.trans hmatch'))
            refine ⟨(), _, rfl, ?_⟩
            rw [htag]
            exact (throws_throw_iff _ _ _ _).2 ⟨rfl, rfl⟩
        | script hmatch' => simp [hmatch] at hmatch'
  | none =>
      unfold evaluated
      simp only [throws_bind_iff, not_throws_recorded, not_throws_ask, gives_recorded_iff,
        gives_ask_iff, throws_resultOf_iff, not_throws_pure, false_or, and_false, exists_false,
        or_false]
      constructor
      · rintro ⟨_, _, ⟨rfl, rfl⟩, _, _, ⟨imports, s', hevaluate, rfl⟩, f, rfl, rfl, rfl⟩
        exact .script hmatch hevaluate
      · intro hfails
        cases hfails with
        | directive hmatch' => simp [hmatch] at hmatch'
        | script _ hevaluate =>
            exact ⟨_, _, ⟨rfl, rfl⟩, _, _, ⟨_, _, hevaluate, rfl⟩, _, rfl, rfl, rfl⟩

theorem throws_workOff_append_iff (engine : Engine σ) (c : Context) (es fs : List Expression)
    (d : Draft) (p : Progress σ) (fault : CompileFault) (s : σ) :
    Throws (workOff engine c (es ++ fs) d) p fault s ↔
      Throws (workOff engine c es d) p fault s ∨
        ∃ m r, Gives (workOff engine c es d) p m r ∧ Throws (workOff engine c fs m) r fault s := by
  induction es generalizing d p with
  | nil =>
      simp only [List.nil_append, workOff, not_throws_pure, gives_pure_iff, false_or]
      constructor
      · exact fun h => ⟨d, p, ⟨rfl, rfl⟩, h⟩
      · rintro ⟨_, _, ⟨rfl, rfl⟩, h⟩
        exact h
  | cons e rest ih =>
      simp only [List.cons_append, workOff, throws_bind_iff, gives_bind_iff, ih]
      constructor
      · rintro (he | ⟨r, q, he, hrest | ⟨m, q', hrest, hfs⟩⟩)
        · exact Or.inl (Or.inl he)
        · exact Or.inl (Or.inr ⟨r, q, he, hrest⟩)
        · exact Or.inr ⟨m, q', ⟨r, q, he, hrest⟩, hfs⟩
      · rintro ((he | ⟨r, q, he, hrest⟩) | ⟨m, q', ⟨r, q, he, hrest⟩, hfs⟩)
        · exact Or.inl he
        · exact Or.inr ⟨r, q, he, Or.inl hrest⟩
        · exact Or.inr ⟨r, q, he, Or.inr ⟨m, q', hrest, hfs⟩⟩

/-- The loop fails at the first marker that fails, which is the last one that does. -/
theorem throws_workOff_iff (engine : Engine σ) (c : Context) {body : Text} {es : List Expression}
    (h : Spaced body es) (p : Progress σ) (fault : CompileFault) (s : σ) :
    Throws (workOff engine c es.reverse ⟨body, []⟩) p fault s ↔
      ∃ before e behind ws s', es = before ++ e :: behind ∧
        WorksOff engine c behind p.engine ws s' ∧ Fails engine c e s' fault s := by
  induction es with
  | nil => simp [workOff, not_throws_pure]
  | cons e rest ih =>
      rw [List.reverse_cons, throws_workOff_append_iff, ih h.tail]
      simp only [gives_workOff_iff engine c h.tail, workOff, throws_bind_iff, not_throws_pure,
        and_false, exists_false, or_false, throws_replacement_iff]
      constructor
      · rintro (⟨before, e', behind, ws, s', rfl, hworks, hfails⟩ |
          ⟨_, _, ⟨ws, s', hworks, rfl, rfl⟩, hfails⟩)
        · exact ⟨e :: before, e', behind, ws, s', rfl, hworks, hfails⟩
        · exact ⟨[], e, rest, ws, s', rfl, hworks, hfails⟩
      · rintro ⟨before, e', behind, ws, s', hes, hworks, hfails⟩
        cases before with
        | nil =>
            obtain ⟨rfl, rfl⟩ := List.cons.inj hes
            exact Or.inr ⟨_, _, ⟨ws, s', hworks, rfl, rfl⟩, hfails⟩
        | cons first before =>
            obtain ⟨rfl, rfl⟩ := List.cons.inj hes
            exact Or.inl ⟨before, e', behind, ws, s', rfl, hworks, hfails⟩

theorem throws_ofSource_iff (engine : Engine σ) (c : Context) (source : Text) (p : Progress σ)
    (fault : CompileFault) (s : σ) :
    Throws (ofSource engine c source) p fault s ↔ Breakdown engine c source p.engine fault s := by
  unfold ofSource
  cases hparse : parse source with
  | error e =>
      simp only [throws_throw_iff]
      constructor
      · rintro ⟨rfl, rfl⟩
        exact .unclosed hparse
      · rintro (⟨hparse'⟩ | ⟨hparse'⟩ | ⟨hparse'⟩)
        · cases hparse.symm.trans hparse'
          exact ⟨rfl, rfl⟩
        · cases hparse.symm.trans hparse'
        · cases hparse.symm.trans hparse'
  | ok t =>
      have hspaced := ((parse_eq_ok_iff source t).1 hparse).2.spaced
      simp only [throws_bind_iff, throws_declarations_iff, gives_declarations_iff,
        lastFirst_eq_reverse hspaced, throws_workOff_iff engine c hspaced, not_throws_note,
        not_throws_pure, and_false, exists_false, or_false]
      constructor
      · rintro (⟨hcode, f, imports, hdeclare, rfl⟩ | ⟨_, _, ⟨declared, s', hdeclares, rfl, rfl⟩,
          before, e, behind, ws, s'', hmarkers, hworks, hfails⟩)
        · exact .declarations hparse hcode hdeclare
        · exact .marker hparse hdeclares hmarkers hworks hfails
      · rintro (⟨hparse'⟩ | ⟨hparse', hcode, hdeclare⟩ |
          ⟨hparse', hdeclares, hmarkers, hworks, hfails⟩)
        · cases hparse.symm.trans hparse'
        · cases hparse.symm.trans hparse'
          exact Or.inl ⟨hcode, _, _, hdeclare, rfl⟩
        · cases hparse.symm.trans hparse'
          exact Or.inr ⟨_, _, ⟨_, _, hdeclares, rfl, rfl⟩, _, _, _, _, _, hmarkers, hworks, hfails⟩

/-- A compile fails exactly along a breakdown, and tells the template's path. -/
theorem throws_compile_iff (engine : Engine σ) (c : Context) (source : Text) (start : σ)
    (fault : CompileFault) (s : σ) :
    Throws (compile engine c source) (.start start) fault s ↔
      ∃ cause, Breakdown engine c source start cause s ∧ fault = cause.inFile c.file := by
  unfold compile
  simp only [throws_bind_iff, not_throws_note, gives_note_iff, throws_tryCatch_throw_iff,
    throws_ofSource_iff, false_or]
  simp [Progress.start]

end Page
end PageLoom
