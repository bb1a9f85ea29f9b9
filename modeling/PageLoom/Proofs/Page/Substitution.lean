import Mathlib.Data.List.Forall2
import PageLoom.Proofs.Page.Loop

set_option autoImplicit false

/-! # Substitution is simultaneous

A compile replaces the markers of a body one by one in a text that it changes on the way. The page
is all the same what a replacement of all of them at once gives: the gaps of the body, with one text
for each marker between them. Such a text is never read again, whatever stands in it. -/

namespace PageLoom
namespace Page

open Template

variable {σ : Type}

/-- A text for the place of a marker: none for a directive, what the engine answers in some state
    for any other marker. -/
def Replaces (engine : Engine σ) (c : Context) (e : Expression) (text : Text) : Prop :=
  match c.registry.match? e.raw with
  | some _ => text = []
  | none => ∃ s s' imports, engine.evaluate e.raw s = (⟨.ok text, imports⟩, s')

theorem Works.replaces {engine : Engine σ} {c : Context} {e : Expression} {s s' : σ} {w : Worked}
    (h : Works engine c e s w s') : Replaces engine c e w.text := by
  cases h with
  | directive hmatch _ =>
      rw [Replaces, hmatch]
      rfl
  | script hmatch hevaluate =>
      rw [Replaces, hmatch]
      exact ⟨_, _, _, hevaluate⟩

theorem WorksOff.replaces {engine : Engine σ} {c : Context} {es : List Expression} {s s' : σ}
    {ws : List Worked} (h : WorksOff engine c es s ws s') :
    List.Forall₂ (Replaces engine c) es (ws.map (·.text)) := by
  induction h with
  | nil => exact .nil
  | cons _ hworks ih => exact .cons hworks.replaces ih

theorem run_eq_ok_iff (engine : Engine σ) (start : σ) (c : Context) (source : Text) (page : Page) :
    (∃ notes, run engine start c source = (.ok page, notes)) ↔
      ∃ q, Gives (compile engine c source) (.start start) page q := by
  unfold run Gives
  rcases outcome (compile engine c source) (.start start) with ⟨result, q⟩
  simp

/-- **Substitution is simultaneous.** A compile comes to a page exactly if there is a course of its
    engine, and the page is the body with all markers replaced at once, and then the tags. -/
theorem run_html_iff (engine : Engine σ) (start : σ) (c : Context) (source html : Text) :
    (∃ page notes, run engine start c source = (.ok page, notes) ∧ page.html = html) ↔
      ∃ t declared ws final, parse source = .ok t ∧ Course engine c t start declared ws final ∧
        List.Forall₂ (Replaces engine c) t.expressions (ws.map (·.text)) ∧
        t.gaps.length = t.expressions.length + 1 ∧
        weave t.gaps (t.expressions.map (·.text)) = t.body ∧
        html = Injection.inject (weave t.gaps (ws.map (·.text)))
          (ws.filterMap (·.tag? .stylesheet)) (ws.filterMap (·.tag? .script)) (reload c) := by
  constructor
  · rintro ⟨page, notes, hrun, rfl⟩
    obtain ⟨q, hgives⟩ := (run_eq_ok_iff engine start c source page).1 ⟨notes, hrun⟩
    obtain ⟨t, declared, ws, final, hparse, ⟨hdeclares, hworks⟩, rfl, _⟩ :=
      (gives_compile_iff engine c source start page q).1 hgives
    have hmarkers := ((parse_eq_ok_iff source t).1 hparse).2
    exact ⟨t, declared, ws, final, hparse, ⟨hdeclares, hworks⟩, hworks.replaces,
      length_gapsFrom .., weave_gapsFrom hmarkers, rfl⟩
  · rintro ⟨t, declared, ws, final, hparse, hcourse, _, _, _, rfl⟩
    have hgives := (gives_compile_iff engine c source start (ofWorked c t declared ws) _).2
      ⟨t, declared, ws, final, hparse, hcourse, rfl, rfl⟩
    obtain ⟨notes, hrun⟩ := (run_eq_ok_iff engine start c source _).2 ⟨_, hgives⟩
    exact ⟨_, notes, hrun, rfl⟩

end Page
end PageLoom
