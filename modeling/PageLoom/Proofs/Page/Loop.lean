import Mathlib.Data.List.Pairwise
import PageLoom.Proofs.Page.Trace
import PageLoom.Proofs.Template.Markers

set_option autoImplicit false

/-! # Working markers off

The loop of a compile changes one text again and again, at offsets that were right for the body.
They stay right: when the markers behind an offset are worked off, the text is the body up to the
first of them, and then what these have come to. That is the invariant of the loop
(`Draft.ofWorked`), and with it a compile succeeds exactly along a course of its engine
(`gives_compile_iff`). -/

namespace PageLoom
namespace Page

open Template

variable {σ : Type}

/-! ## The order of the loop -/

/-- Markers of a body are worked off in the reverse of their order. -/
theorem lastFirst_eq_reverse {body : Text} {es : List Expression} (h : Spaced body es) :
    lastFirst es = es.reverse := by
  have hlt := h.start_lt
  -- Different markers have different offsets, so nothing but the reverse is sorted.
  have hinj : ∀ e ∈ es, ∀ f ∈ es, e.start = f.start → e = f := by
    intro e he f hf heq
    have hsymm : Std.Symm fun e f : Expression => e.start ≠ f.start := ⟨fun _ _ hne => hne.symm⟩
    by_contra hne
    exact (hlt.imp fun hlt => Nat.ne_of_lt hlt).forall he hf hne heq
  refine @List.Perm.eq_of_pairwise _ (fun e f => decide (f.start ≤ e.start) = true) _ _ ?_ ?_ ?_ ?_
  · intro e f he hf hle hge
    refine hinj e (List.mem_mergeSort.1 he) f (List.mem_reverse.1 hf) ?_
    exact Nat.le_antisymm (of_decide_eq_true hge) (of_decide_eq_true hle)
  · refine List.pairwise_mergeSort ?_ ?_ es
    · intro a b c hab hbc
      simp only [decide_eq_true_eq] at hab hbc ⊢
      omega
    · intro a b
      simp only [Bool.or_eq_true, decide_eq_true_eq]
      omega
  · rw [List.pairwise_reverse]
    exact hlt.imp fun hlt => decide_eq_true (Nat.le_of_lt hlt)
  · exact (List.mergeSort_perm es _).trans es.reverse_perm.symm

theorem gives_workOff_append_iff (engine : Engine σ) (c : Context) (es fs : List Expression)
    (d d' : Draft) (p q : Progress σ) :
    Gives (workOff engine c (es ++ fs) d) p d' q ↔
      ∃ m r, Gives (workOff engine c es d) p m r ∧ Gives (workOff engine c fs m) r d' q := by
  induction es generalizing d p with
  | nil =>
      simp only [List.nil_append, workOff, gives_pure_iff]
      constructor
      · exact fun h => ⟨d, p, ⟨rfl, rfl⟩, h⟩
      · rintro ⟨_, _, ⟨rfl, rfl⟩, h⟩
        exact h
  | cons e rest ih =>
      simp only [List.cons_append, workOff, gives_bind_iff, ih]
      constructor
      · rintro ⟨r, s, he, m, s', hrest, hfs⟩
        exact ⟨m, s', ⟨r, s, he, hrest⟩, hfs⟩
      · rintro ⟨m, s', ⟨r, s, he, hrest⟩, hfs⟩
        exact ⟨r, s, he, m, s', hrest, hfs⟩

/-! ## The invariant -/

/-- The draft of a body whose markers `es` have come to `ws`. -/
def Draft.ofWorked (body : Text) (es : List Expression) (ws : List Worked) : Draft where
  text := weave (gapsFrom body 0 es) (ws.map (·.text))
  parts := (es.map (·.start)).zip (ws.map (·.part))

theorem Draft.ofWorked_nil (body : Text) : Draft.ofWorked body [] [] = ⟨body, []⟩ := by
  simp [Draft.ofWorked, gapsFrom, weave]

/-- Replacing the marker before all others that are replaced already. -/
theorem splice_weave {body : Text} {e : Expression} {es : List Expression}
    (h : Spaced body (e :: es)) (r : Replacement) (texts : List Text) :
    splice e r (weave (gapsFrom body 0 es) texts) =
      weave (gapsFrom body 0 (e :: es)) (r.text :: texts) := by
  have hspan := h.span e (List.mem_cons_self ..)
  have hstop := h.stop_le
  -- The text up to the marker and the text behind it are those of the body.
  have hstart : ∀ f ∈ es, e.start ≤ f.start := by
    intro f hf
    have hle := hstop f hf
    omega
  have htake : (weave (gapsFrom body 0 es) texts).take e.start = Text.slice body 0 e.start := by
    rw [weave_gapsFrom_eq_slice_append (Nat.zero_le _) hstart, List.take_left']
    rw [Text.length_slice]
    omega
  have hdrop : (weave (gapsFrom body 0 es) texts).drop e.stop =
      weave (gapsFrom body e.stop es) texts := by
    rw [weave_gapsFrom_eq_slice_append (Nat.zero_le _) hstop, List.drop_left']
    rw [Text.length_slice]
    omega
  rw [splice, htake, hdrop]
  rfl

/-- A part before all others goes to the front. -/
theorem putPart_of_lt {offset : Nat} {parts : List (Nat × Replacement)}
    (h : ∀ known ∈ parts.map (·.1), offset < known) (r : Replacement) :
    putPart offset r parts = (offset, r) :: parts := by
  cases parts with
  | nil => rfl
  | cons first rest =>
      obtain ⟨known, old⟩ := first
      rw [putPart, if_pos (h known (List.mem_cons_self ..))]

/-- One step of the loop keeps the invariant. -/
theorem Draft.step_ofWorked {body : Text} {e : Expression} {es : List Expression}
    (h : Spaced body (e :: es)) (w : Worked) (ws : List Worked) :
    (⟨splice e w.part (Draft.ofWorked body es ws).text,
      putPart e.start w.part (Draft.ofWorked body es ws).parts⟩ : Draft) =
      Draft.ofWorked body (e :: es) (w :: ws) := by
  have hbefore : ∀ known ∈ (Draft.ofWorked body es ws).parts.map (·.1), e.start < known := by
    intro known hknown
    obtain ⟨part, hpart, rfl⟩ := List.mem_map.1 hknown
    obtain ⟨f, hf, hstart⟩ := List.mem_map.1 (List.of_mem_zip hpart).1
    have hspan := h.span e (List.mem_cons_self ..)
    have hstop := h.stop_le f hf
    omega
  have htext : w.part.text = w.text := by cases w <;> rfl
  rw [putPart_of_lt hbefore, Draft.ofWorked, splice_weave h, htext]
  rfl

/-! ## The loop -/

/-- The loop succeeds exactly along a course through the markers. -/
theorem gives_workOff_iff (engine : Engine σ) (c : Context) {body : Text} {es : List Expression}
    (h : Spaced body es) (p q : Progress σ) (d : Draft) :
    Gives (workOff engine c es.reverse ⟨body, []⟩) p d q ↔
      ∃ ws s, WorksOff engine c es p.engine ws s ∧ d = Draft.ofWorked body es ws ∧
        q = ⟨s, p.recorded.append (Worked.allRecorded ws), p.notes ++ Worked.allNotes ws⟩ := by
  induction es generalizing d q with
  | nil =>
      simp only [List.reverse_nil, workOff, gives_pure_iff]
      constructor
      · rintro ⟨rfl, rfl⟩
        exact ⟨[], _, .nil _, (Draft.ofWorked_nil body).symm,
          by simp [Worked.allRecorded, Worked.allNotes, Imports.concat]⟩
      · rintro ⟨_, _, ⟨⟩, rfl, rfl⟩
        exact ⟨Draft.ofWorked_nil body,
          by simp [Worked.allRecorded, Worked.allNotes, Imports.concat]⟩
  | cons e rest ih =>
      rw [List.reverse_cons, gives_workOff_append_iff]
      simp only [ih h.tail, workOff, gives_bind_iff, gives_replacement_iff, gives_pure_iff]
      constructor
      · rintro ⟨_, _, ⟨ws, s, hbehind, rfl, rfl⟩, _, _, ⟨w, s', hworks, rfl, rfl⟩, rfl, rfl⟩
        refine ⟨w :: ws, s', .cons hbehind hworks, Draft.step_ofWorked h w ws, ?_⟩
        rw [Worked.allRecorded_cons, Worked.allNotes_cons, Imports.append_assoc, List.append_assoc]
      · rintro ⟨_, s', hworks, rfl, rfl⟩
        cases hworks with
        | @cons _ _ _ s _ w ws hbehind hworks =>
            refine ⟨_, _, ⟨ws, s, hbehind, rfl, rfl⟩, _, _, ⟨w, s', hworks, rfl, rfl⟩,
              (Draft.step_ofWorked h w ws).symm, ?_⟩
            rw [Worked.allRecorded_cons, Worked.allNotes_cons, Imports.append_assoc,
              List.append_assoc]

/-! ## The whole compile -/

/-- The page of a template whose declarations imported `declared` and whose markers have come to
    `ws`. -/
def ofWorked (c : Context) (t : Template) (declared : Imports) (ws : List Worked) : Page where
  html := Injection.inject (weave t.gaps (ws.map (·.text))) (ws.filterMap (·.tag? .stylesheet))
    (ws.filterMap (·.tag? .script)) (reload c)
  stylesheets := declared.stylesheets ++ ws.flatMap (·.imports.stylesheets)
  scripts := declared.scripts ++ ws.flatMap (·.imports.scripts)

theorem tags_part_concat (ws : List Worked) :
    Imports.concat (ws.map (·.part.tags)) =
      ⟨ws.filterMap (·.tag? .stylesheet), ws.filterMap (·.tag? .script)⟩ := by
  induction ws with
  | nil => rfl
  | cons w rest ih =>
      rw [List.map_cons, ← List.singleton_append, Imports.concat_append, ih]
      rcases w with ⟨_ | _, path, url, tag⟩ | ⟨text, imports⟩ <;> rfl

theorem imports_part (w : Worked) : w.part.imports = w.imports := by
  cases w <;> rfl

theorem assemble_ofWorked (c : Context) (t : Template) (declared : Imports) {ws : List Worked}
    (hlen : ws.length = t.expressions.length) :
    assemble c declared (Draft.ofWorked t.body t.expressions ws) = ofWorked c t declared ws := by
  have hparts : (Draft.ofWorked t.body t.expressions ws).parts.map (·.2) = ws.map (·.part) := by
    rw [Draft.ofWorked, List.map_snd_zip]
    simp [hlen]
  have hmap : ∀ f : Replacement → Imports,
      (Draft.ofWorked t.body t.expressions ws).parts.map (fun part => f part.2) =
        ws.map fun w => f w.part := by
    intro f
    simpa only [List.map_map, Function.comp_def] using congrArg (List.map f) hparts
  have htags := (congrArg Imports.concat (hmap (·.tags))).trans (tags_part_concat ws)
  have himports := hmap (·.imports)
  simp only [assemble, htags, himports, imports_part, ofWorked, Imports.append,
    Imports.stylesheets_concat, Imports.scripts_concat, List.flatMap_map]
  rfl

theorem gives_ofSource_iff (engine : Engine σ) (c : Context) (source : Text) (p q : Progress σ)
    (page : Page) :
    Gives (ofSource engine c source) p page q ↔
      ∃ t declared ws s, parse source = .ok t ∧ Course engine c t p.engine declared ws s ∧
        page = ofWorked c t (p.recorded.append declared) ws ∧
        q = ⟨s, (p.recorded.append declared).append (Worked.allRecorded ws),
          p.notes ++ Worked.allNotes ws ++
            [.debug 3 (summary c.file t.expressions.length page)]⟩ := by
  unfold ofSource
  cases hparse : parse source with
  | error fault => simp [not_gives_throw]
  | ok t =>
      have hspaced := ((parse_eq_ok_iff source t).1 hparse).2.spaced
      simp only [gives_bind_iff, gives_declarations_iff, lastFirst_eq_reverse hspaced,
        gives_workOff_iff engine c hspaced, gives_note_iff, gives_pure_iff]
      constructor
      · rintro ⟨_, _, ⟨declared, s, hdeclares, rfl, rfl⟩, _, _, ⟨ws, s', hworks, rfl, rfl⟩,
          _, _, rfl, rfl, rfl⟩
        have hassemble := assemble_ofWorked c t (p.recorded.append declared) hworks.length_eq
        exact ⟨t, declared, ws, s', rfl, ⟨hdeclares, hworks⟩, hassemble, by rw [hassemble]⟩
      · rintro ⟨_, declared, ws, s', ⟨rfl⟩, ⟨hdeclares, hworks⟩, rfl, rfl⟩
        have hassemble := assemble_ofWorked c t (p.recorded.append declared) hworks.length_eq
        refine ⟨_, _, ⟨declared, _, hdeclares, rfl, rfl⟩, _, _, ⟨ws, s', hworks, rfl, rfl⟩,
          (), _, rfl, hassemble.symm, ?_⟩
        rw [hassemble]

/-- A compile succeeds exactly along a course of its engine, and the page is that of the course. -/
theorem gives_compile_iff (engine : Engine σ) (c : Context) (source : Text) (start : σ)
    (page : Page) (q : Progress σ) :
    Gives (compile engine c source) (.start start) page q ↔
      ∃ t declared ws s, parse source = .ok t ∧ Course engine c t start declared ws s ∧
        page = ofWorked c t declared ws ∧
        q = ⟨s, declared.append (Worked.allRecorded ws),
          .debug 2 ("Compiling " ++ c.file) :: Worked.allNotes ws ++
            [.debug 3 (summary c.file t.expressions.length page)]⟩ := by
  unfold compile
  simp only [gives_bind_iff, gives_note_iff, gives_tryCatch_throw_iff, gives_ofSource_iff]
  simp [Progress.start]

end Page
end PageLoom
