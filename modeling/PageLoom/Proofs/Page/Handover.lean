import PageLoom.Proofs.Page.Failure
import PageLoom.Proofs.Template.Unclosed

set_option autoImplicit false

/-! # Which scripts a compile hands over

An engine that keeps the texts handed to it answers like the engine it is made of, so every course
of a compile is one of the recording engine, too, and the record grows along it by one text for each
marker that is a script. What a compile hands over, and the failure it then reports, depends on
where its course ends (`handover_compile`). -/

namespace PageLoom
namespace Page

open Template

variable {σ : Type}

/-! ## What is handed over -/

/-- The texts handed to the engine by a compile, in the order in which they were. -/
def handedOver (engine : Engine σ) (c : Context) (source : Text) (start : σ) : List Text :=
  (outcome (compile engine.recording c source) (.start (start, []))).2.engine.2

/-- The declarations as a script, if there are any. -/
def declarationScripts (code : Text) : List Text := if code.isEmpty then [] else [code]

/-- The texts of those markers that are no recognised directives. -/
def scriptsIn (c : Context) (es : List Expression) : List Text :=
  (es.filter fun e => (c.registry.match? e.raw).isNone).map (·.raw)

/-- Each marker once, from the highest offset to the lowest. -/
structure Descending (order es : List Expression) : Prop where
  perm : order.Perm es
  sorted : order.Pairwise fun e f => f.start < e.start

/-- What is handed over for a template, and what the compile comes to. -/
inductive TemplateHandover (engine : Engine σ) (c : Context) (t : Template) (start : σ) :
    List Text → Except CompileFault Page → Prop where
  /-- The declarations fail, and nothing else is handed over. -/
  | declarations {f : Engine.Fault} {imports : Imports} {s : σ} (hcode : t.declarations ≠ [])
      (hdeclare : engine.declare t.declarations start = (⟨.error f, imports⟩, s)) :
      TemplateHandover engine c t start [t.declarations]
        (.error ((CompileFault.ofScript .failedDeclarations f).inFile c.file))
  /-- The marker `e` fails, behind markers that were worked off, and `rest` never is. -/
  | marker {order rest : List Expression} {e : Expression} {declared : Imports}
      {ws : List Worked} {fault : CompileFault} {s s' s'' : σ}
      (horder : Descending (order ++ e :: rest) t.expressions)
      (hdeclares : Declares engine t.declarations start declared s)
      (hworks : WorksOff engine c order.reverse s ws s') (hfails : Fails engine c e s' fault s'') :
      TemplateHandover engine c t start
        (declarationScripts t.declarations ++ scriptsIn c (order ++ [e]))
        (.error (fault.inFile c.file))
  /-- Nothing fails. -/
  | page {order : List Expression} {declared : Imports} {ws : List Worked} {s : σ}
      (horder : Descending order t.expressions) (hcourse : Course engine c t start declared ws s) :
      TemplateHandover engine c t start (declarationScripts t.declarations ++ scriptsIn c order)
        (.ok (ofWorked c t declared ws))

/-- What is handed over for a source: nothing at all if some marker of it never closes. -/
inductive SourceHandover (engine : Engine σ) (c : Context) (source : Text) (start : σ) :
    List Text → Except CompileFault Page → Prop where
  | unclosed {e : PageError} (hopen : LeftOpen source) (hparse : parse source = .error e) :
      SourceHandover engine c source start [] (.error ((CompileFault.page e).inFile c.file))
  | parsed {t : Template} {handed : List Text} {result : Except CompileFault Page}
      (hclosed : ¬ LeftOpen source) (hparse : parse source = .ok t)
      (hhanded : TemplateHandover engine c t start handed result) :
      SourceHandover engine c source start handed result

theorem descending_reverse {body : Text} {es : List Expression} (h : Spaced body es) :
    Descending es.reverse es :=
  ⟨es.reverse_perm, List.pairwise_reverse.2 h.start_lt⟩

/-! ## Courses of the recording engine -/

variable {engine : Engine σ} {c : Context} {e : Expression} {es : List Expression} {s s' : σ}

theorem declare_recording {code : Text} {reply : Reply Unit}
    (h : engine.declare code s = (reply, s')) (handed : List Text) :
    engine.recording.declare code (s, handed) = (reply, s', handed ++ [code]) := by
  simp only [Engine.recording, h]

theorem evaluate_recording {code : Text} {reply : Reply Text}
    (h : engine.evaluate code s = (reply, s')) (handed : List Text) :
    engine.recording.evaluate code (s, handed) = (reply, s', handed ++ [code]) := by
  simp only [Engine.recording, h]

theorem Declares.recording {code : Text} {imports : Imports}
    (h : Declares engine code s imports s') (handed : List Text) :
    Declares engine.recording code (s, handed) imports
      (s', handed ++ declarationScripts code) := by
  unfold Declares declarationScripts at *
  by_cases hcode : code.isEmpty = true
  · rw [if_pos hcode] at h
    obtain ⟨rfl, rfl⟩ := h
    simp [hcode]
  · rw [if_neg hcode] at h
    rw [if_neg hcode, if_neg hcode]
    exact declare_recording h handed

theorem scriptsIn_append (c : Context) (es fs : List Expression) :
    scriptsIn c (es ++ fs) = scriptsIn c es ++ scriptsIn c fs := by
  simp [scriptsIn]

/-- A directive is not handed over. -/
theorem scriptsIn_of_directive {found : Directive.Call × Directive}
    (h : c.registry.match? e.raw = some found) : scriptsIn c [e] = [] := by
  simp [scriptsIn, h]

theorem scriptsIn_of_script (h : c.registry.match? e.raw = none) : scriptsIn c [e] = [e.raw] := by
  simp [scriptsIn, h]

theorem Works.recording {w : Worked} (h : Works engine c e s w s') (handed : List Text) :
    Works engine.recording c e (s, handed) w (s', handed ++ scriptsIn c [e]) := by
  cases h with
  | directive hmatch htag =>
      rw [scriptsIn_of_directive hmatch, List.append_nil]
      exact .directive hmatch htag
  | script hmatch hevaluate =>
      rw [scriptsIn_of_script hmatch]
      exact .script hmatch (evaluate_recording hevaluate handed)

theorem Fails.recording {fault : CompileFault} (h : Fails engine c e s fault s')
    (handed : List Text) :
    Fails engine.recording c e (s, handed) fault (s', handed ++ scriptsIn c [e]) := by
  cases h with
  | directive hmatch htag =>
      rw [scriptsIn_of_directive hmatch, List.append_nil]
      exact .directive hmatch htag
  | script hmatch hevaluate =>
      rw [scriptsIn_of_script hmatch]
      exact .script hmatch (evaluate_recording hevaluate handed)

/-- The markers are handed over from the last to the first. -/
theorem WorksOff.recording {ws : List Worked} (h : WorksOff engine c es s ws s')
    (handed : List Text) :
    WorksOff engine.recording c es (s, handed) ws (s', handed ++ scriptsIn c es.reverse) := by
  induction h with
  | nil s =>
      rw [List.reverse_nil, scriptsIn, List.filter_nil, List.map_nil, List.append_nil]
      exact .nil _
  | cons _ hworks ih =>
      rw [List.reverse_cons, scriptsIn_append, ← List.append_assoc]
      exact .cons ih (hworks.recording _)

/-! ## The compile -/

/-- A compile that succeeds hands over all scripts of its markers. -/
theorem handover_of_course {source : Text} {t : Template} {start : σ} {declared : Imports}
    {ws : List Worked} (hparse : parse source = .ok t)
    (hcourse : Course engine c t start declared ws s) :
    (outcome (compile engine.recording c source) (.start (start, []))).1 =
        .ok (ofWorked c t declared ws) ∧
      TemplateHandover engine c t start (handedOver engine c source start)
        (.ok (ofWorked c t declared ws)) := by
  have hspaced := ((parse_eq_ok_iff source t).1 hparse).2.spaced
  have hpage := TemplateHandover.page (descending_reverse hspaced) hcourse
  obtain ⟨hdeclares, hworks⟩ := hcourse
  have hrecording := (gives_compile_iff engine.recording c source (start, []) _ _).2
    ⟨t, declared, ws, _, hparse, ⟨hdeclares.recording [], hworks.recording _⟩, rfl, rfl⟩
  rw [handedOver, hrecording]
  exact ⟨rfl, hpage⟩

/-- A compile that fails hands over the scripts up to the one that failed. -/
theorem handover_of_breakdown {source : Text} {start : σ} {cause : CompileFault}
    (h : Breakdown engine c source start cause s) :
    (outcome (compile engine.recording c source) (.start (start, []))).1 =
        .error (cause.inFile c.file) ∧
      SourceHandover engine c source start (handedOver engine c source start)
        (.error (cause.inFile c.file)) := by
  -- The recording engine breaks down along the same course, and its record tells what it was handed.
  have hthrows : ∀ handed, Breakdown engine.recording c source (start, []) cause (s, handed) →
      (outcome (compile engine.recording c source) (.start (start, []))).1 =
          .error (cause.inFile c.file) ∧ handedOver engine c source start = handed := by
    intro handed hbreakdown
    have hrecording := (throws_compile_iff engine.recording c source (start, []) _ _).2
      ⟨cause, hbreakdown, rfl⟩
    exact ⟨hrecording.1, congrArg Prod.snd hrecording.2⟩
  cases h with
  | @unclosed e hparse =>
      obtain ⟨hresult, hhanded⟩ := hthrows [] (.unclosed hparse)
      rw [hhanded]
      exact ⟨hresult, .unclosed (leftOpen_of_parse hparse) hparse⟩
  | @declarations t f imports _ hparse hcode hdeclare =>
      obtain ⟨hresult, hhanded⟩ := hthrows [t.declarations]
        (.declarations hparse hcode (declare_recording hdeclare []))
      rw [hhanded]
      exact ⟨hresult, .parsed (not_leftOpen_of_parse hparse) hparse (.declarations hcode hdeclare)⟩
  | @marker t declared before behind e ws _ s' s'' _ hparse hdeclares hmarkers hworks hfails =>
      obtain ⟨hresult, hhanded⟩ := hthrows _ (.marker hparse (hdeclares.recording []) hmarkers
        (hworks.recording _) (hfails.recording _))
      have hspaced := ((parse_eq_ok_iff source t).1 hparse).2.spaced
      have hreverse : t.expressions.reverse = behind.reverse ++ e :: before.reverse := by
        simp [hmarkers]
      have horder := descending_reverse hspaced
      rw [hreverse] at horder
      rw [hhanded, List.nil_append, List.append_assoc, ← scriptsIn_append]
      rw [← List.reverse_reverse behind] at hworks
      exact ⟨hresult, .parsed (not_leftOpen_of_parse hparse) hparse
        (.marker horder hdeclares hworks hfails)⟩

/-- **What a compile hands over.** Nothing if some marker never closes, and else the declarations
    and then the markers that are no directives, from the last to the first, up to the one that
    fails first; the compile reports this failure. Keeping a record changes no result. -/
theorem handover_compile (engine : Engine σ) (c : Context) (source : Text) (start : σ) :
    (outcome (compile engine.recording c source) (.start (start, []))).1 =
        (outcome (compile engine c source) (.start start)).1 ∧
      SourceHandover engine c source start (handedOver engine c source start)
        (outcome (compile engine c source) (.start start)).1 := by
  rcases gives_or_throws (compile engine c source) (.start start) with
    ⟨page, q, hgives⟩ | ⟨fault, s, hthrows⟩
  · obtain ⟨t, declared, ws, s, hparse, hcourse, rfl, -⟩ :=
      (gives_compile_iff engine c source start page q).1 hgives
    obtain ⟨hresult, hhanded⟩ := handover_of_course hparse hcourse
    rw [hgives]
    exact ⟨hresult, .parsed (not_leftOpen_of_parse hparse) hparse hhanded⟩
  · obtain ⟨cause, hbreakdown, rfl⟩ := (throws_compile_iff engine c source start fault s).1 hthrows
    rw [hthrows.1]
    exact handover_of_breakdown hbreakdown

end Page
end PageLoom
