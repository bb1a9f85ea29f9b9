import Mathlib.Data.List.Forall2

set_option autoImplicit false

/-! # Steps that change a state and may fail

A step has an outcome: its result, or its fault, and the state it leaves, which stays changed when
the step fails. What every step leaves in order is left in order by steps one after the other
(`Leaves`), and what each of a list of steps achieves is so in the end, if no other of them undoes
it (`Gives.mapM`). Steps one after the other give the same results a second time, from a state kept
beside the first, if each of them does (`Gives.mapM_again`). They fail where the first of them does,
when those before it are done (`fails_mapM_iff`). Two runs are set side by side step by step: from
related states, they end alike and leave related states (`Alike`). A step that cannot tell related
states apart goes on the same from both (`Steady`). -/

namespace PageLoom
namespace Stateful

variable {ε σ α β : Type}

/-- The result of a step that begins in a state, and the state it leaves. -/
def outcome (x : ExceptT ε (StateM σ) α) (s : σ) : Except ε α × σ := x.run.run s

theorem outcome_pure (a : α) (s : σ) :
    outcome (pure a : ExceptT ε (StateM σ) α) s = (.ok a, s) := rfl

theorem outcome_throw (fault : ε) (s : σ) :
    outcome (throw fault : ExceptT ε (StateM σ) α) s = (.error fault, s) := rfl

theorem outcome_get (s : σ) :
    outcome (get : ExceptT ε (StateM σ) σ) s = (.ok s, s) := rfl

theorem outcome_modify (f : σ → σ) (s : σ) :
    outcome (modify f : ExceptT ε (StateM σ) PUnit) s = (.ok (), f s) := rfl

theorem outcome_bind (x : ExceptT ε (StateM σ) α) (f : α → ExceptT ε (StateM σ) β) (s : σ) :
    outcome (x >>= f) s =
      match outcome x s with
      | (.ok a, t) => outcome (f a) t
      | (.error fault, t) => (.error fault, t) := by
  unfold outcome
  rw [ExceptT.run_bind, StateT.run_bind]
  rcases StateT.run (ExceptT.run x) s with ⟨fault | a, t⟩ <;> rfl

theorem outcome_tryCatch (x : ExceptT ε (StateM σ) α) (f : ε → ExceptT ε (StateM σ) α) (s : σ) :
    outcome (tryCatch x f) s =
      match outcome x s with
      | (.ok a, t) => (.ok a, t)
      | (.error fault, t) => outcome (f fault) t := by
  unfold outcome ExceptT.run StateT.run
  simp only [tryCatch, tryCatchThe, MonadExceptOf.tryCatch, ExceptT.tryCatch, ExceptT.mk, bind,
    StateT.bind]
  rcases x s with ⟨fault | a, t⟩ <;> rfl

/-- Steps one after the other have the outcome of others that go the same way. -/
theorem outcome_bind_congr {x x' : ExceptT ε (StateM σ) α} {f f' : α → ExceptT ε (StateM σ) β}
    {s : σ} (hx : outcome x s = outcome x' s)
    (hf : ∀ a t, outcome x' s = (.ok a, t) → outcome (f a) t = outcome (f' a) t) :
    outcome (x >>= f) s = outcome (x' >>= f') s := by
  rw [outcome_bind, outcome_bind, hx]
  rcases hx' : outcome x' s with ⟨fault | a, t⟩
  · rfl
  · exact hf a t hx'

/-- Going over lists one after the other is going over all of them in one. -/
theorem mapM_flatMap (f : α → ExceptT ε (StateM σ) β) {γ : Type} (g : γ → List α) (zs : List γ) :
    (zs.flatMap g).mapM f = do
      let parts ← zs.mapM fun z => (g z).mapM f
      return parts.flatten := by
  induction zs with
  | nil => simp
  | cons z rest ih => simp [List.mapM_append, ih]

/-! ## Success -/

/-- From the state `s`, the step succeeds with `a` and leaves the state `t`. -/
def Gives (x : ExceptT ε (StateM σ) α) (s : σ) (a : α) (t : σ) : Prop := outcome x s = (.ok a, t)

variable {x : ExceptT ε (StateM σ) α} {f : α → ExceptT ε (StateM σ) β} {s t : σ}

/-- A step gives the result of its outcome. -/
theorem gives_of_outcome {a : α} (h : (outcome x s).1 = .ok a) : Gives x s a (outcome x s).2 :=
  Prod.ext h rfl

theorem gives_pure_iff {a b : α} :
    Gives (pure a : ExceptT ε (StateM σ) α) s b t ↔ b = a ∧ t = s := by
  simp [Gives, outcome_pure, eq_comm]

theorem not_gives_throw {fault : ε} {a : α} :
    ¬ Gives (throw fault : ExceptT ε (StateM σ) α) s a t := by
  simp [Gives, outcome_throw]

theorem gives_get_iff {r : σ} :
    Gives (get : ExceptT ε (StateM σ) σ) s r t ↔ r = s ∧ t = s := by
  simp [Gives, outcome_get, eq_comm]

theorem gives_modify_iff {g : σ → σ} {u : PUnit} :
    Gives (modify g : ExceptT ε (StateM σ) PUnit) s u t ↔ t = g s := by
  simp [Gives, outcome_modify, eq_comm]

theorem gives_bind_iff {b : β} :
    Gives (x >>= f) s b t ↔ ∃ a r, Gives x s a r ∧ Gives (f a) r b t := by
  unfold Gives
  rw [outcome_bind]
  rcases outcome x s with ⟨fault | a, r⟩
  · simp
  · constructor
    · exact fun h => ⟨a, r, rfl, h⟩
    · rintro ⟨a', r', ⟨⟩, h⟩
      exact h

/-- A handler that fails in any case changes no success. -/
theorem gives_tryCatch_iff {handler : ε → ExceptT ε (StateM σ) α} {a : α}
    (hfails : ∀ fault r, ¬ Gives (handler fault) r a t) :
    Gives (tryCatch x handler) s a t ↔ Gives x s a t := by
  unfold Gives
  rw [outcome_tryCatch]
  rcases outcome x s with ⟨fault | b, r⟩
  · exact ⟨fun h => absurd h (hfails fault r), nofun⟩
  · rfl

/-- What each step of a list achieves is so in the end, if no other step undoes it. -/
theorem Gives.mapM {P : α → β → σ → Prop} {Inv : σ → Prop} {xs : List α} {ys : List β}
    (hnodup : xs.Nodup)
    (hdone : ∀ x ∈ xs, ∀ s y t, Inv s → Gives (f x) s y t → P x y t ∧ Inv t)
    (hkept : ∀ x ∈ xs, ∀ x' ∈ xs, x' ≠ x → ∀ y y' s t, Inv s → P x y s →
      Gives (f x') s y' t → P x y t)
    (h : Gives (xs.mapM f) s ys t) (hs : Inv s) :
    List.Forall₂ (fun x y => P x y t) xs ys ∧ Inv t := by
  -- What was achieved before the list began is kept by all of it.
  suffices hrun : ∀ xs' : List α, (∀ x ∈ xs', x ∈ xs) → ∀ s ys, Inv s →
      Gives (xs'.mapM f) s ys t → xs'.Nodup →
        (List.Forall₂ (fun x y => P x y t) xs' ys ∧ Inv t) ∧
          ∀ x ∈ xs, x ∉ xs' → ∀ y, P x y s → P x y t from
    (hrun xs (fun _ hx => hx) s ys hs h hnodup).1
  intro xs'
  induction xs' with
  | nil =>
      intro _ s ys hs h _
      obtain ⟨rfl, rfl⟩ := gives_pure_iff.1 h
      exact ⟨⟨.nil, hs⟩, fun _ _ _ _ hP => hP⟩
  | cons x rest ih =>
      intro hsub s ys hs h hnodup
      rw [List.nodup_cons] at hnodup
      rw [List.mapM_cons] at h
      obtain ⟨y, r, hfirst, hrest⟩ := gives_bind_iff.1 h
      obtain ⟨ys', r', hrest, hend⟩ := gives_bind_iff.1 hrest
      obtain ⟨rfl, rfl⟩ := gives_pure_iff.1 hend
      have hx := hsub x List.mem_cons_self
      obtain ⟨hP, hr⟩ := hdone x hx s y r hs hfirst
      obtain ⟨⟨hall, hinv⟩, hbefore⟩ :=
        ih (fun z hz => hsub z (List.mem_cons_of_mem _ hz)) r ys' hr hrest hnodup.2
      refine ⟨⟨.cons (hbefore x hx hnodup.1 y hP) hall, hinv⟩, fun z hz hnot w hPz => ?_⟩
      rw [List.mem_cons, not_or] at hnot
      exact hbefore z hz hnot.2 w (hkept z hz x hx (Ne.symm hnot.1) w y s r hs hPz hfirst)

/-- What each step of a list achieves whatever there is, all of them achieve. -/
theorem Gives.mapM_each {P : α → β → Prop} {Inv : σ → Prop} {xs : List α} {ys : List β}
    (hdone : ∀ x ∈ xs, ∀ s y t, Inv s → Gives (f x) s y t → P x y ∧ Inv t)
    (h : Gives (xs.mapM f) s ys t) (hs : Inv s) : List.Forall₂ P xs ys ∧ Inv t := by
  induction xs generalizing s ys with
  | nil =>
      obtain ⟨rfl, rfl⟩ := gives_pure_iff.1 h
      exact ⟨.nil, hs⟩
  | cons x rest ih =>
      rw [List.mapM_cons] at h
      obtain ⟨y, r, hfirst, hrest⟩ := gives_bind_iff.1 h
      obtain ⟨ys', r', hrest, hend⟩ := gives_bind_iff.1 hrest
      obtain ⟨rfl, rfl⟩ := gives_pure_iff.1 hend
      obtain ⟨hP, hr⟩ := hdone x List.mem_cons_self s y r hs hfirst
      obtain ⟨hall, hinv⟩ := ih (fun z hz => hdone z (List.mem_cons_of_mem _ hz)) hrest hr
      exact ⟨.cons hP hall, hinv⟩

/-! ## Failure -/

/-- From the state `s`, the step fails with a fault and leaves the state `t`. -/
def Fails (x : ExceptT ε (StateM σ) α) (s : σ) (fault : ε) (t : σ) : Prop :=
  outcome x s = (.error fault, t)

variable {fault : ε}

/-- Whatever its outcome, the step leaves a state that is related to the one it began in. -/
def Leaves (R : σ → σ → Prop) (x : ExceptT ε (StateM σ) α) : Prop := ∀ s, R s (outcome x s).2

variable {R : σ → σ → Prop}

theorem Leaves.gives (h : Leaves R x) {a : α} (hx : Gives x s a t) : R s t := by
  have hs := h s
  rwa [hx] at hs

theorem leaves_pure (hrefl : ∀ s, R s s) (a : α) : Leaves R (pure a : ExceptT ε (StateM σ) α) :=
  hrefl

theorem leaves_throw (hrefl : ∀ s, R s s) (fault : ε) :
    Leaves R (throw fault : ExceptT ε (StateM σ) α) :=
  hrefl

theorem leaves_bind (htrans : ∀ r s t, R r s → R s t → R r t) (hx : Leaves R x)
    (hf : ∀ a, Leaves R (f a)) : Leaves R (x >>= f) := by
  intro s
  have hs := hx s
  rw [outcome_bind]
  rcases hx' : outcome x s with ⟨fault | a, t⟩ <;> rw [hx'] at hs
  · exact hs
  · exact htrans s t _ hs (hf a t)

theorem leaves_tryCatch (htrans : ∀ r s t, R r s → R s t → R r t) (hx : Leaves R x)
    {handler : ε → ExceptT ε (StateM σ) α} (hhandler : ∀ fault, Leaves R (handler fault)) :
    Leaves R (tryCatch x handler) := by
  intro s
  have hs := hx s
  rw [outcome_tryCatch]
  rcases hx' : outcome x s with ⟨fault | a, t⟩ <;> rw [hx'] at hs
  · exact htrans s t _ hs (hhandler fault t)
  · exact hs

theorem leaves_mapM (hrefl : ∀ s, R s s) (htrans : ∀ r s t, R r s → R s t → R r t)
    {xs : List α} (hf : ∀ x ∈ xs, Leaves R (f x)) : Leaves R (xs.mapM f) := by
  induction xs with
  | nil => exact hrefl
  | cons x rest ih =>
      rw [List.mapM_cons]
      exact leaves_bind htrans (hf x List.mem_cons_self) fun y =>
        leaves_bind htrans (ih fun z hz => hf z (List.mem_cons_of_mem _ hz)) fun ys =>
          leaves_pure hrefl _

/-- Steps that lead to a last state can be taken again from other states, one after the other, if
    each of them can while the last state is ahead. -/
theorem Gives.mapM_again {S : σ → σ → Prop} {last s' : σ} {xs : List α} {ys : List β}
    (hrefl : ∀ s, R s s) (htrans : ∀ r s t, R r s → R s t → R r t)
    (hleaves : ∀ x ∈ xs, Leaves R (f x))
    (hstep : ∀ x ∈ xs, ∀ s y t s', S s s' → R t last → Gives (f x) s y t →
      ∃ t', Gives (f x) s' y t' ∧ S t t')
    (h : Gives (xs.mapM f) s ys t) (hlast : R t last) (hs : S s s') :
    ∃ t', Gives (xs.mapM f) s' ys t' ∧ S t t' := by
  induction xs generalizing s s' ys with
  | nil =>
      obtain ⟨rfl, rfl⟩ := gives_pure_iff.1 h
      exact ⟨s', gives_pure_iff.2 ⟨rfl, rfl⟩, hs⟩
  | cons x rest ih =>
      rw [List.mapM_cons] at h ⊢
      obtain ⟨y, r, hfirst, hrest⟩ := gives_bind_iff.1 h
      obtain ⟨ys', r', hrest, hend⟩ := gives_bind_iff.1 hrest
      obtain ⟨rfl, rfl⟩ := gives_pure_iff.1 hend
      have hlater : ∀ z ∈ rest, Leaves R (f z) :=
        fun z hz => hleaves z (List.mem_cons_of_mem _ hz)
      -- The steps to come lead from here to the last state.
      have hahead := htrans r t last ((leaves_mapM hrefl htrans hlater).gives hrest) hlast
      obtain ⟨q, hagain, hq⟩ := hstep x List.mem_cons_self s y r s' hs hahead hfirst
      obtain ⟨t', hagains, ht⟩ :=
        ih hlater (fun z hz => hstep z (List.mem_cons_of_mem _ hz)) hrest hq
      exact ⟨t', gives_bind_iff.2 ⟨y, q, hagain, gives_bind_iff.2 ⟨ys', t', hagains,
        gives_pure_iff.2 ⟨rfl, rfl⟩⟩⟩, ht⟩

/-- Whatever the outcome, what holds of a state holds of the state that is left. -/
def Keeps (I : σ → Prop) (x : ExceptT ε (StateM σ) α) : Prop :=
  Leaves (fun s t => I s → I t) x

/-- Steps that have the same outcomes, as long as something holds that all of them keep, have the
    same outcome one after the other. -/
theorem outcome_mapM_congr {I : σ → Prop} {xs : List α} {g : α → ExceptT ε (StateM σ) β}
    (hkeeps : ∀ x ∈ xs, Keeps I (g x))
    (heq : ∀ x ∈ xs, ∀ s, I s → outcome (f x) s = outcome (g x) s) (hs : I s) :
    outcome (xs.mapM f) s = outcome (xs.mapM g) s := by
  induction xs generalizing s with
  | nil => rfl
  | cons x rest ih =>
      rw [List.mapM_cons, List.mapM_cons]
      refine outcome_bind_congr (heq x List.mem_cons_self s hs) fun y t hy => ?_
      have ht : I t := (hkeeps x List.mem_cons_self).gives hy hs
      exact outcome_bind_congr (ih (fun z hz => hkeeps z (List.mem_cons_of_mem _ hz))
        (fun z hz => heq z (List.mem_cons_of_mem _ hz)) ht) fun _ _ _ => rfl

/-! ## Two runs side by side -/

/-- Two steps end alike: with related results, or with the same fault. -/
inductive EndAlike (Q : α → β → Prop) : Except ε α → Except ε β → Prop
  | given {a : α} {b : β} (h : Q a b) : EndAlike Q (.ok a) (.ok b)
  | failed (fault : ε) : EndAlike Q (.error fault) (.error fault)

theorem endAlike_eq_iff {r r' : Except ε α} : EndAlike Eq r r' ↔ r = r' := by
  constructor
  · rintro (⟨rfl⟩ | fault) <;> rfl
  · rintro rfl
    cases r with
    | error fault => exact .failed fault
    | ok a => exact .given rfl

/-- From related states, two steps end alike and leave related states. -/
def Alike (R : σ → σ → Prop) (Q : α → β → Prop) (x : ExceptT ε (StateM σ) α)
    (y : ExceptT ε (StateM σ) β) : Prop :=
  ∀ s t, R s t → EndAlike Q (outcome x s).1 (outcome y t).1 ∧ R (outcome x s).2 (outcome y t).2

variable {α' β' : Type} {Q : α → α' → Prop} {Q' : β → β' → Prop}

theorem alike_pure {a : α} {a' : α'} (h : Q a a') :
    Alike R Q (pure a : ExceptT ε (StateM σ) α) (pure a') :=
  fun _ _ hR => ⟨.given h, hR⟩

theorem alike_throw (fault : ε) :
    Alike R Q (throw fault : ExceptT ε (StateM σ) α) (throw fault) :=
  fun _ _ hR => ⟨.failed fault, hR⟩

theorem alike_get : Alike R R (get : ExceptT ε (StateM σ) σ) get :=
  fun _ _ hR => ⟨.given hR, hR⟩

theorem Alike.bind {y : ExceptT ε (StateM σ) α'} {g : α' → ExceptT ε (StateM σ) β'}
    (hx : Alike R Q x y) (hf : ∀ a a', Q a a' → Alike R Q' (f a) (g a')) :
    Alike R Q' (x >>= f) (y >>= g) := by
  intro s t hR
  have hfirst := hx s t hR
  rw [outcome_bind, outcome_bind]
  generalize outcome x s = p, outcome y t = q at hfirst
  obtain ⟨r, s'⟩ := p
  obtain ⟨r', t'⟩ := q
  obtain ⟨hend, hleft⟩ := hfirst
  cases hend with
  | given h => exact hf _ _ h s' t' hleft
  | failed fault => exact ⟨.failed fault, hleft⟩

theorem Alike.tryCatch {y : ExceptT ε (StateM σ) α'} {handler : ε → ExceptT ε (StateM σ) α}
    {handler' : ε → ExceptT ε (StateM σ) α'} (hx : Alike R Q x y)
    (hhandler : ∀ fault, Alike R Q (handler fault) (handler' fault)) :
    Alike R Q (tryCatch x handler) (tryCatch y handler') := by
  intro s t hR
  have hfirst := hx s t hR
  rw [outcome_tryCatch, outcome_tryCatch]
  generalize outcome x s = p, outcome y t = q at hfirst
  obtain ⟨r, s'⟩ := p
  obtain ⟨r', t'⟩ := q
  obtain ⟨hend, hleft⟩ := hfirst
  cases hend with
  | given h => exact ⟨.given h, hleft⟩
  | failed fault => exact hhandler fault s' t' hleft

/-- From related states, a step ends the same and leaves related states. -/
def Steady (R : σ → σ → Prop) (x : ExceptT ε (StateM σ) α) : Prop := Alike R Eq x x

theorem steady_pure (a : α) : Steady R (pure a : ExceptT ε (StateM σ) α) := alike_pure rfl

theorem steady_throw (fault : ε) : Steady R (throw fault : ExceptT ε (StateM σ) α) :=
  alike_throw fault

theorem steady_modify {g : σ → σ} (h : ∀ s t, R s t → R (g s) (g t)) :
    Steady R (modify g : ExceptT ε (StateM σ) PUnit) :=
  fun s t hR => ⟨.given rfl, h s t hR⟩

/-- After a step that gives the same result, two runs go on with it. -/
theorem Steady.bind_alike {g : α → ExceptT ε (StateM σ) β'} (hx : Steady R x)
    (hf : ∀ a, Alike R Q' (f a) (g a)) : Alike R Q' (x >>= f) (x >>= g) :=
  hx.bind fun a _ heq => heq ▸ hf a

theorem Steady.bind (hx : Steady R x) (hf : ∀ a, Steady R (f a)) : Steady R (x >>= f) :=
  hx.bind_alike hf

/-- What is read of a state must be the same in related ones. -/
theorem steady_get_bind {g : σ → ExceptT ε (StateM σ) β}
    (hg : ∀ s t, R s t → g s = g t ∧ Steady R (g t)) : Steady R (get >>= g) := by
  refine alike_get.bind fun s t hR => ?_
  obtain ⟨heq, hsteady⟩ := hg s t hR
  rw [heq]
  exact hsteady

theorem Steady.tryCatch {handler : ε → ExceptT ε (StateM σ) α} (hx : Steady R x)
    (hhandler : ∀ fault, Steady R (handler fault)) : Steady R (tryCatch x handler) :=
  Alike.tryCatch hx hhandler

theorem Steady.mapM (hf : ∀ a, Steady R (f a)) (xs : List α) : Steady R (xs.mapM f) := by
  induction xs with
  | nil => exact steady_pure _
  | cons x rest ih =>
      rw [List.mapM_cons]
      exact (hf x).bind fun y => ih.bind fun ys => steady_pure _

end Stateful
end PageLoom
