import PageLoom.Proofs.Page.Handover

set_option autoImplicit false

/-! # Faults that escape a compile

A compile hands scripts to its engine one after the other as long as it gets answers (`Answers`). A
script that stops is a failure of the page, which then tells the template's path, and so is a marker
that is not closed; no tag of a built-in directive fails. So the only fault that leaves a compile in
another way is one of the engine's own: it broke down over the last script that it was handed, and
the compile passes on just what the engine tells (`ends_ofText`). -/

namespace PageLoom
namespace Page

open Template

variable {σ : Type} {engine : Engine σ} {c : Context} {start s s' : σ} {handed : List Text}

/-! ## Calls of the engine -/

/-- The engine was handed some scripts one after the other and had an answer to each; it has come to
    the state `s`. -/
inductive Answers (engine : Engine σ) (start : σ) : List Text → σ → Prop where
  | none : Answers engine start [] start
  | declared {handed : List Text} {s s' : σ} {code : Text} {imports : Imports}
      (h : Answers engine start handed s)
      (hcall : engine.declare code s = (⟨.ok (), imports⟩, s')) :
      Answers engine start (handed ++ [code]) s'
  | evaluated {handed : List Text} {s s' : σ} {code text : Text} {imports : Imports}
      (h : Answers engine start handed s)
      (hcall : engine.evaluate code s = (⟨.ok text, imports⟩, s')) :
      Answers engine start (handed ++ [code]) s'

/-- In the state `s`, the engine has no answer to a script. -/
def FailsOn (engine : Engine σ) (code : Text) (s : σ) (fault : Engine.Fault) : Prop :=
  ∃ imports s', engine.declare code s = (⟨.error fault, imports⟩, s') ∨
    engine.evaluate code s = (⟨.error fault, imports⟩, s')

theorem Declares.answers {code : Text} {imports : Imports}
    (h : Declares engine code start imports s) :
    Answers engine start (declarationScripts code) s := by
  unfold Declares declarationScripts at *
  split at h
  next hcode =>
    obtain ⟨-, rfl⟩ := h
    rw [if_pos hcode]
    exact .none
  next hcode =>
    rw [if_neg hcode]
    exact .declared .none h

/-- Markers that were worked off had their answers, from the last to the first. -/
theorem WorksOff.answers {es : List Expression} {ws : List Worked}
    (h : WorksOff engine c es s ws s') (hbefore : Answers engine start handed s) :
    Answers engine start (handed ++ scriptsIn c es.reverse) s' := by
  induction h with
  | nil =>
      rw [List.reverse_nil, scriptsIn, List.filter_nil, List.map_nil, List.append_nil]
      exact hbefore
  | cons _ hworks ih =>
      rw [List.reverse_cons, scriptsIn_append, ← List.append_assoc]
      cases hworks with
      | directive hmatch =>
          rw [scriptsIn_of_directive hmatch, List.append_nil]
          exact ih hbefore
      | script hmatch hevaluate =>
          rw [scriptsIn_of_script hmatch]
          exact .evaluated (ih hbefore) hevaluate

/-! ## What a compile comes to -/

/-- What a compile comes to that handed some scripts over: a page if all of them were answered; an
    error of the page that tells its file if nothing could be handed over or the last of them
    stopped; and if the engine broke down over the last of them, what the engine told. -/
inductive Ends (engine : Engine σ) (start : σ) (file : Text) :
    List Text → Except CompileFault Page → Prop where
  | page {handed : List Text} {s : σ} (page : Page) (hanswers : Answers engine start handed s) :
      Ends engine start file handed (.ok page)
  | unclosed {e : PageError} (hfile : e.file = some file) :
      Ends engine start file [] (.error (.page e))
  | stopped {handed : List Text} {s : σ} {script reason : Text} {e : PageError}
      (hanswers : Answers engine start handed s)
      (hcall : FailsOn engine script s (.stopped reason)) (hfile : e.file = some file) :
      Ends engine start file (handed ++ [script]) (.error (.page e))
  | escaped {handed : List Text} {s : σ} {script kind report : Text}
      (hanswers : Answers engine start handed s)
      (hcall : FailsOn engine script s (.escaped kind report)) :
      Ends engine start file (handed ++ [script]) (.error (.escaped kind report))

/-- The failure of a script that is handed over behind others. -/
theorem ends_ofScript {code file : Text} {f : Engine.Fault} {report : Text → PageError}
    (hanswers : Answers engine start handed s) (hcall : FailsOn engine code s f)
    (hreport : ∀ reason, (report reason).file = none) :
    Ends engine start file (handed ++ [code])
      (.error ((CompileFault.ofScript report f).inFile file)) := by
  cases f with
  | escaped kind text => exact .escaped hanswers hcall
  | stopped reason =>
      refine .stopped hanswers hcall ?_
      show some ((report reason).file.getD file) = some file
      rw [hreport, Option.getD_none]

/-- An error in the text of a template does not know its file. -/
theorem file_eq_none_of_parse {source : Text} {e : PageError} (h : parse source = .error e) :
    e.file = none := by
  rcases (parse_eq_error_iff source e).1 h with hblock | ⟨declarations, body, -, hbody⟩
  · obtain ⟨-, -, rfl⟩ := (split_eq_error_iff source e).1 hblock
    rfl
  · obtain ⟨es, stop, start, -, -, -, rfl⟩ := exists_closed_of_expressionsFrom hbody
    rfl

/-- Markers in descending order are the markers of a template from the last to the first. -/
theorem Descending.eq_reverse {order es : List Expression} (h : Descending order es)
    (hsorted : es.Pairwise fun e f => e.start < f.start) : order = es.reverse :=
  List.Perm.eq_of_pairwise (fun _ _ _ _ hlt hgt => absurd hlt (Nat.lt_asymm hgt)) h.sorted
    (List.pairwise_reverse.2 hsorted) (h.perm.trans es.reverse_perm.symm)

theorem ends_of_templateHandover (hrenders : c.registry.Renders) {t : Template}
    (hsorted : t.expressions.Pairwise fun e f => e.start < f.start)
    {result : Except CompileFault Page} (h : TemplateHandover engine c t start handed result) :
    Ends engine start c.file handed result := by
  cases h with
  | declarations hcode hdeclare =>
      exact ends_ofScript .none ⟨_, _, .inl hdeclare⟩ fun _ => rfl
  | marker horder hdeclares hworks hfails =>
      obtain ⟨f, imports, hmatch, hevaluate, rfl⟩ := hfails.of_renders hrenders
      have hanswers := hworks.answers hdeclares.answers
      rw [List.reverse_reverse] at hanswers
      rw [scriptsIn_append, scriptsIn_of_script hmatch, ← List.append_assoc]
      exact ends_ofScript hanswers ⟨_, _, .inr hevaluate⟩ fun _ => rfl
  | @page order declared ws s horder hcourse =>
      obtain ⟨hdeclares, hworks⟩ := hcourse
      rw [horder.eq_reverse hsorted]
      exact .page _ (hworks.answers hdeclares.answers)

theorem ends_of_sourceHandover (hrenders : c.registry.Renders) {source : Text}
    {result : Except CompileFault Page} (h : SourceHandover engine c source start handed result) :
    Ends engine start c.file handed result := by
  cases h with
  | unclosed _ hparse =>
      refine .unclosed ?_
      rw [PageError.inFile, file_eq_none_of_parse hparse, Option.getD_none]
  | parsed _ hparse hhanded =>
      have hspaced := ((parse_eq_ok_iff _ _).1 hparse).2.spaced
      exact ends_of_templateHandover hrenders hspaced.start_lt hhanded

/-- **Only the engine's own faults escape.** With the built-in directives and whatever engine is at
    hand, a compile comes to a page or to an error of the page with the template's path, unless the
    engine breaks down over a script that it is handed; then it comes to what the engine tells. -/
theorem ends_ofText (host : EngineHost) (settings : Settings) (options : CompileOptions)
    (cwd file source : Text) :
    Ends host.engine (host.start settings file) file
      (handedOver host.engine ⟨.builtIn, options, cwd, file, settings.liveReloadPath⟩ source
        (host.start settings file))
      (ofText host settings .builtIn options cwd file source).1 :=
  ends_of_sourceHandover Registry.builtIn_renders
    (handover_compile host.engine ⟨.builtIn, options, cwd, file, settings.liveReloadPath⟩ source
      (host.start settings file)).2

/-- A host whose engine breaks down over null characters; any other text is its own result. -/
def guardedHost : EngineHost where
  State := Unit
  engine :=
    { declare := fun _ s => (⟨.ok (), .none⟩, s)
      evaluate := fun code s =>
        (⟨if code.contains '\x00' then .error (.escaped "ValueError" "embedded null character")
          else .ok code, .none⟩, s) }
  start _ _ := ()

/-- A body with one marker, whose script is a quoted null character. -/
def quotedNull : Text := "a" ++ Marker.opening ++ " '\x00' " ++ Marker.closing

/-- No page, and no error of the page either. -/
theorem ofText_quotedNull :
    (ofText guardedHost {} .builtIn .plain "/" "index.vyu" quotedNull).1 =
      .error (.escaped "ValueError" "embedded null character") := by
  decide +kernel

end Page
end PageLoom
