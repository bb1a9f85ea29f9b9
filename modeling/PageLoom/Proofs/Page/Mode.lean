import PageLoom.Proofs.Injection
import PageLoom.Proofs.Page.Failure

set_option autoImplicit false

/-! # The mode changes only the injected block

The options of a compile say which URLs go into the tags and whether the page reloads. No script
reads them, and where all tags can be filled, no directive fails under any of them. So a course of a
compile under some options is one under all others, with the same texts and imports, and it breaks
down in the same way. The page is cut at the same place, where each mode puts in its own tags. -/

namespace PageLoom
namespace Page

open Template

variable {σ : Type}

/-! ## The tags of a template -/

/-- The tag of a directive of the given kind. -/
def tagOf (c : Context) (kind : AssetKind) (e : Expression) : Option Text :=
  match c.registry.match? e.raw with
  | some (call, d) =>
      if d.kind = kind then
        (d.render (AssetUrl.resolve c.cwd call.path c.file c.options)).toOption
      else none
  | none => none

/-- What is put into the page of a template: the tags of its directives and, in dev mode, the script
    that reloads the page. -/
def insertion (c : Context) (t : Template) (lineFeed : Text) : Text :=
  Injection.insertion (t.expressions.filterMap (tagOf c .stylesheet))
    (t.expressions.filterMap (tagOf c .script)) (reload c) lineFeed

/-- Two results of compiling a source that differ in nothing but what is put in. -/
inductive OnlyInsertionDiffers (c c' : Context) (source : Text) :
    Except CompileFault Page → Except CompileFault Page → Prop where
  | fault (fault : CompileFault) : OnlyInsertionDiffers c c' source (.error fault) (.error fault)
  | page {t : Template} {before lineFeed after : Text} {stylesheets scripts : List Text}
      (hparse : parse source = .ok t) (hline : lineFeed = [] ∨ lineFeed = ['\n']) :
      OnlyInsertionDiffers c c' source
        (.ok ⟨before ++ insertion c t lineFeed ++ after, stylesheets, scripts⟩)
        (.ok ⟨before ++ insertion c' t lineFeed ++ after, stylesheets, scripts⟩)

variable {engine : Engine σ} {c : Context} {e : Expression} {es : List Expression} {s s' : σ}

theorem Works.tag?_eq {w : Worked} (h : Works engine c e s w s') (kind : AssetKind) :
    w.tag? kind = tagOf c kind e := by
  cases h with
  | directive hmatch htag =>
      rw [tagOf, hmatch]
      simp only [htag, Worked.tag?]
      rfl
  | script hmatch _ =>
      rw [tagOf, hmatch]
      rfl

theorem WorksOff.filterMap_tag? {ws : List Worked} (h : WorksOff engine c es s ws s')
    (kind : AssetKind) : ws.filterMap (·.tag? kind) = es.filterMap (tagOf c kind) := by
  induction h with
  | nil => rfl
  | cons _ hworks ih => simp only [List.filterMap_cons, hworks.tag?_eq, ih]

/-! ## Courses under other options -/

/-- A marker comes to the same text and the same imports under other options. -/
theorem Works.under (hrenders : c.registry.Renders) {w : Worked} (h : Works engine c e s w s')
    (options : CompileOptions) :
    ∃ w', Works engine { c with options } e s w' s' ∧ w'.text = w.text ∧ w'.imports = w.imports := by
  cases h with
  | @directive call d tag hmatch _ =>
      obtain ⟨tag', htag'⟩ :=
        hrenders e.raw call d hmatch (AssetUrl.resolve c.cwd call.path c.file options)
      have hworks : Works engine { c with options } e s _ s := .directive hmatch htag'
      exact ⟨_, hworks, rfl, rfl⟩
  | script hmatch hevaluate =>
      have hworks : Works engine { c with options } e s _ s' := .script hmatch hevaluate
      exact ⟨_, hworks, rfl, rfl⟩

theorem WorksOff.under (hrenders : c.registry.Renders) {ws : List Worked}
    (h : WorksOff engine c es s ws s') (options : CompileOptions) :
    ∃ ws', WorksOff engine { c with options } es s ws' s' ∧
      ws'.map (·.text) = ws.map (·.text) ∧ ws'.map (·.imports) = ws.map (·.imports) := by
  induction h with
  | nil s => exact ⟨[], .nil s, rfl, rfl⟩
  | cons _ hworks ih =>
      obtain ⟨ws', hbehind', htexts, himports⟩ := ih
      obtain ⟨w', hworks', htext, himport⟩ := hworks.under hrenders options
      refine ⟨w' :: ws', .cons hbehind' hworks', ?_, ?_⟩
      · rw [List.map_cons, List.map_cons, htext, htexts]
      · rw [List.map_cons, List.map_cons, himport, himports]

/-- No directive fails, and scripts fail in the same way. -/
theorem Fails.under (hrenders : c.registry.Renders) {fault : CompileFault}
    (h : Fails engine c e s fault s') (options : CompileOptions) :
    Fails engine { c with options } e s fault s' := by
  obtain ⟨f, imports, hmatch, hevaluate, rfl⟩ := h.of_renders hrenders
  exact .script hmatch hevaluate

theorem Breakdown.under (hrenders : c.registry.Renders) {source : Text} {fault : CompileFault}
    (h : Breakdown engine c source s fault s') (options : CompileOptions) :
    Breakdown engine { c with options } source s fault s' := by
  cases h with
  | unclosed hparse => exact .unclosed hparse
  | declarations hparse hcode hdeclare => exact .declarations hparse hcode hdeclare
  | marker hparse hdeclares hmarkers hworks hfails =>
      obtain ⟨ws', hworks', -, -⟩ := hworks.under hrenders options
      exact .marker hparse hdeclares hmarkers hworks' (hfails.under hrenders options)

/-! ## The pages -/

/-- Pages of markers that come to the same texts and the same imports. -/
theorem onlyInsertionDiffers_ofWorked {c c' : Context} {source : Text} {t : Template}
    {s₁ s₂ s₁' s₂' : σ} {ws ws' : List Worked} (hparse : parse source = .ok t)
    (h : WorksOff engine c t.expressions s₁ ws s₂)
    (h' : WorksOff engine c' t.expressions s₁' ws' s₂')
    (htexts : ws'.map (·.text) = ws.map (·.text))
    (himports : ws'.map (·.imports) = ws.map (·.imports)) (declared : Imports) :
    OnlyInsertionDiffers c c' source (.ok (ofWorked c t declared ws))
      (.ok (ofWorked c' t declared ws')) := by
  obtain ⟨before, lineFeed, after, -, hline, hinject⟩ :=
    Injection.inject_eq_insertion (weave t.gaps (ws.map (·.text)))
  have hflatMap : ∀ f : Imports → List Text,
      ws'.flatMap (fun w => f w.imports) = ws.flatMap fun w => f w.imports := by
    intro f
    simpa only [List.flatMap_map] using congrArg (List.flatMap f) himports
  simp only [ofWorked, htexts, hinject, h.filterMap_tag?, h'.filterMap_tag?, hflatMap]
  exact .page hparse hline

theorem onlyInsertionDiffers_compile (hrenders : c.registry.Renders) (options : CompileOptions)
    (engine : Engine σ) (start : σ) (source : Text) :
    OnlyInsertionDiffers c { c with options } source
      (outcome (compile engine c source) (.start start)).1
      (outcome (compile engine { c with options } source) (.start start)).1 := by
  rcases gives_or_throws (compile engine c source) (.start start) with
    ⟨page, q, hgives⟩ | ⟨fault, s, hthrows⟩
  · obtain ⟨t, declared, ws, s, hparse, ⟨hdeclares, hworks⟩, rfl, -⟩ :=
      (gives_compile_iff engine c source start page q).1 hgives
    obtain ⟨ws', hworks', htexts, himports⟩ := hworks.under hrenders options
    have hgives' := (gives_compile_iff engine { c with options } source start _ _).2
      ⟨t, declared, ws', s, hparse, ⟨hdeclares, hworks'⟩, rfl, rfl⟩
    rw [hgives, hgives']
    exact onlyInsertionDiffers_ofWorked hparse hworks hworks' htexts himports declared
  · obtain ⟨cause, hbreakdown, rfl⟩ := (throws_compile_iff engine c source start fault s).1 hthrows
    have hthrows' := (throws_compile_iff engine { c with options } source start _ s).2
      ⟨cause, hbreakdown.under hrenders options, rfl⟩
    rw [hthrows.1, hthrows'.1]
    exact .fault _

/-- **The mode changes only the injected block.** With the built-in directives, a source that is
    compiled under two options comes to the same failure, or to two pages with the same imports and
    the same text around what each mode puts in. -/
theorem onlyInsertionDiffers_run (engine : Engine σ) (start : σ) (cwd file reloadPath : Text)
    (source : Text) (o₁ o₂ : CompileOptions) :
    OnlyInsertionDiffers ⟨.builtIn, o₁, cwd, file, reloadPath⟩ ⟨.builtIn, o₂, cwd, file, reloadPath⟩
      source (run engine start ⟨.builtIn, o₁, cwd, file, reloadPath⟩ source).1
      (run engine start ⟨.builtIn, o₂, cwd, file, reloadPath⟩ source).1 :=
  onlyInsertionDiffers_compile (c := ⟨.builtIn, o₁, cwd, file, reloadPath⟩)
    Registry.builtIn_renders o₂ engine start source

end Page
end PageLoom
