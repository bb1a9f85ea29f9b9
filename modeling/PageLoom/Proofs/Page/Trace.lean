import PageLoom.Proofs.Page.Step

set_option autoImplicit false

/-! # What a compile asks of its engine

The course of a compile as far as its engine takes part in it, said without drafts, lists of
imports and offsets: the declarations take the engine from one state to another, and so does every
marker that is a script, one after the other. Each marker comes to a tag, or to a text with the
imports of its own evaluation. The steps of a compile succeed exactly along such a course. -/

namespace PageLoom
namespace Page

variable {σ : Type}

/-! ## The course of a compile -/

/-- Running the declarations takes the engine from `s` to `s'`; meanwhile they import `imports`. -/
def Declares (engine : Engine σ) (code : Text) (s : σ) (imports : Imports) (s' : σ) : Prop :=
  if code.isEmpty then imports = .none ∧ s' = s
  else engine.declare code s = (⟨.ok (), imports⟩, s')

/-- What a marker comes to. -/
inductive Worked where
  /-- A directive, with the path it names, the URL of that and the tag for it. -/
  | directive (kind : AssetKind) (path url tag : Text)
  /-- A script, with the text it evaluates to and what it imports meanwhile. -/
  | script (text : Text) (imports : Imports)

namespace Worked

/-- The text in the place of the marker. -/
def text : Worked → Text
  | directive .. => []
  | script t _ => t

/-- The tag of a directive of the given kind. -/
def tag? (kind : AssetKind) : Worked → Option Text
  | directive kind' _ _ tag => if kind' = kind then some tag else none
  | script .. => none

/-- What the marker adds to the imports of the page. -/
def imports : Worked → Imports
  | directive kind path _ _ => .ofKind kind [path]
  | script _ imports => imports

/-- What the scripts of the marker import; a directive runs none. -/
def recorded : Worked → Imports
  | directive .. => .none
  | script _ imports => imports

/-- What is noted on the way. -/
def notes : Worked → List Entry
  | directive _ path url _ => [AssetUrl.note path url]
  | script .. => []

/-- The part that the compile keeps. -/
def part : Worked → Replacement
  | directive kind path _ tag => ⟨[], .ofKind kind [tag], .ofKind kind [path]⟩
  | script t imports => ⟨t, .none, imports⟩

/-- What the scripts of all markers import, from the last marker to the first. -/
def allRecorded (ws : List Worked) : Imports := Imports.concat (ws.reverse.map (·.recorded))

/-- What is noted at all markers, from the last to the first. -/
def allNotes (ws : List Worked) : List Entry := ws.reverse.flatMap (·.notes)

theorem allRecorded_cons (w : Worked) (ws : List Worked) :
    allRecorded (w :: ws) = (allRecorded ws).append w.recorded := by
  rw [allRecorded, List.reverse_cons, List.map_append, Imports.concat_append]
  exact congrArg (Imports.append _) (Imports.append_none w.recorded)

theorem allNotes_cons (w : Worked) (ws : List Worked) :
    allNotes (w :: ws) = allNotes ws ++ w.notes := by
  simp [allNotes]

end Worked

/-- Working off the marker `e` takes the engine from `s` to `s'`, and the marker comes to `w`. -/
inductive Works (engine : Engine σ) (c : Context) (e : Expression) : σ → Worked → σ → Prop where
  | directive {s : σ} {call : Directive.Call} {d : Directive} {tag : Text}
      (hmatch : c.registry.match? e.raw = some (call, d))
      (htag : d.render (AssetUrl.resolve c.cwd call.path c.file c.options) = .ok tag) :
      Works engine c e s
        (.directive d.kind call.path (AssetUrl.resolve c.cwd call.path c.file c.options) tag) s
  | script {s s' : σ} {text : Text} {imports : Imports}
      (hmatch : c.registry.match? e.raw = none)
      (hevaluate : engine.evaluate e.raw s = (⟨.ok text, imports⟩, s')) :
      Works engine c e s (.script text imports) s'

/-- Working off markers from the last to the first. Markers and what they come to are listed from
    left to right. -/
inductive WorksOff (engine : Engine σ) (c : Context) :
    List Expression → σ → List Worked → σ → Prop where
  | nil (s : σ) : WorksOff engine c [] s [] s
  | cons {e : Expression} {es : List Expression} {s s' s'' : σ} {w : Worked} {ws : List Worked}
      (hbehind : WorksOff engine c es s ws s') (hworks : Works engine c e s' w s'') :
      WorksOff engine c (e :: es) s (w :: ws) s''

/-- The course of a compile: first the declarations, then the markers. -/
inductive Course (engine : Engine σ) (c : Context) (t : Template) :
    σ → Imports → List Worked → σ → Prop where
  | intro {s s' s'' : σ} {declared : Imports} {ws : List Worked}
      (hdeclares : Declares engine t.declarations s declared s')
      (hworks : WorksOff engine c t.expressions s' ws s'') :
      Course engine c t s declared ws s''

theorem WorksOff.length_eq {engine : Engine σ} {c : Context} {es : List Expression} {s s' : σ}
    {ws : List Worked} (h : WorksOff engine c es s ws s') : ws.length = es.length := by
  induction h with
  | nil => rfl
  | cons _ _ ih => simp [ih]

/-! ## Steps along the course -/

theorem gives_declarations_iff (engine : Engine σ) (code : Text) (p q : Progress σ)
    (imports : Imports) :
    Gives (declarations engine code) p imports q ↔
      ∃ declared s, Declares engine code p.engine declared s ∧
        imports = p.recorded.append declared ∧
        q = { p with engine := s, recorded := p.recorded.append declared } := by
  unfold declarations Declares
  by_cases hcode : code.isEmpty = true
  · rw [if_neg (fun h => h hcode), gives_recorded_iff]
    simp only [if_pos hcode]
    constructor
    · rintro ⟨himports, hq⟩
      exact ⟨.none, p.engine, ⟨rfl, rfl⟩, by rw [himports, Imports.append_none],
        by rw [hq, Imports.append_none]⟩
    · rintro ⟨declared, s, ⟨rfl, rfl⟩, rfl, rfl⟩
      simp
  · rw [if_pos hcode]
    simp only [if_neg hcode, gives_bind_iff, gives_ask_iff, gives_resultOf_iff, gives_recorded_iff]
    constructor
    · rintro ⟨result, _, ⟨declared, s, hdeclare, rfl⟩, _, _, ⟨rfl, rfl⟩, rfl, rfl⟩
      exact ⟨declared, s, hdeclare, rfl, rfl⟩
    · rintro ⟨declared, s, hdeclare, rfl, rfl⟩
      exact ⟨_, _, ⟨declared, s, hdeclare, rfl⟩, _, _, ⟨rfl, rfl⟩, rfl, rfl⟩

theorem gives_directive_iff (c : Context) (call : Directive.Call) (d : Directive)
    (p q : Progress σ) (r : Replacement) :
    Gives (directive c call d) p r q ↔
      ∃ tag, d.render (AssetUrl.resolve c.cwd call.path c.file c.options) = .ok tag ∧
        r = ⟨[], .ofKind d.kind [tag], .ofKind d.kind [call.path]⟩ ∧
        q = { p with
          notes := p.notes ++
            [AssetUrl.note call.path (AssetUrl.resolve c.cwd call.path c.file c.options)] } := by
  unfold directive
  simp only [gives_bind_iff, gives_note_iff]
  cases d.render (AssetUrl.resolve c.cwd call.path c.file c.options) with
  | error fault => simp [not_gives_throw]
  | ok tag => simp [gives_pure_iff]

theorem gives_evaluated_iff (engine : Engine σ) (raw : Text) (p q : Progress σ)
    (r : Replacement) :
    Gives (evaluated engine raw) p r q ↔
      ∃ text imports s, engine.evaluate raw p.engine = (⟨.ok text, imports⟩, s) ∧
        r = ⟨text, .none, imports⟩ ∧
        q = { p with engine := s, recorded := p.recorded.append imports } := by
  unfold evaluated
  simp only [gives_bind_iff, gives_recorded_iff, gives_ask_iff, gives_resultOf_iff, gives_pure_iff]
  constructor
  · rintro ⟨_, _, ⟨rfl, rfl⟩, _, _, ⟨imports, s, hevaluate, rfl⟩, text, _, ⟨rfl, rfl⟩,
      _, _, ⟨rfl, rfl⟩, rfl, rfl⟩
    exact ⟨text, imports, s, hevaluate, by rw [Imports.since_append], rfl⟩
  · rintro ⟨text, imports, s, hevaluate, rfl, rfl⟩
    exact ⟨_, _, ⟨rfl, rfl⟩, _, _, ⟨imports, s, hevaluate, rfl⟩, text, _, ⟨rfl, rfl⟩,
      _, _, ⟨rfl, rfl⟩, by rw [Imports.since_append], rfl⟩

/-- A step of the loop succeeds exactly along a step of the course. -/
theorem gives_replacement_iff (engine : Engine σ) (c : Context) (e : Expression)
    (p q : Progress σ) (r : Replacement) :
    Gives (replacement engine c e) p r q ↔
      ∃ w s, Works engine c e p.engine w s ∧ r = w.part ∧
        q = ⟨s, p.recorded.append w.recorded, p.notes ++ w.notes⟩ := by
  unfold replacement
  cases hmatch : c.registry.match? e.raw with
  | some found =>
      obtain ⟨call, d⟩ := found
      simp only [gives_directive_iff]
      constructor
      · rintro ⟨tag, htag, rfl, rfl⟩
        exact ⟨_, _, .directive hmatch htag, rfl, by rw [Worked.recorded, Imports.append_none]; rfl⟩
      · rintro ⟨_, _, hworks, rfl, rfl⟩
        cases hworks with
        | directive hmatch' htag =>
            obtain ⟨rfl, rfl⟩ := Prod.mk.inj (Option.some.inj (hmatch.symm.trans hmatch'))
            exact ⟨_, htag, rfl, by rw [Worked.recorded, Imports.append_none]; rfl⟩
        | script hmatch' => simp [hmatch] at hmatch'
  | none =>
      simp only [gives_evaluated_iff]
      constructor
      · rintro ⟨text, imports, s, hevaluate, rfl, rfl⟩
        exact ⟨_, _, .script hmatch hevaluate, rfl, by rw [Worked.notes, List.append_nil]; rfl⟩
      · rintro ⟨_, _, hworks, rfl, rfl⟩
        cases hworks with
        | directive hmatch' => simp [hmatch] at hmatch'
        | script _ hevaluate =>
            exact ⟨_, _, _, hevaluate, rfl, by rw [Worked.notes, List.append_nil]; rfl⟩

end Page
end PageLoom
