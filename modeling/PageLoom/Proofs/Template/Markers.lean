import PageLoom.Proofs.Result
import PageLoom.Proofs.Template.Closed

set_option autoImplicit false

/-! # The markers of a body

Which markers a body has, said without the search that finds them: from a position on, a body has
no marker if no opening brace stands there, and otherwise the first one that stands there, up to
where it is closed, and then the markers behind it. A body is read exactly so
(`expressionsFrom_eq_ok_iff`), and the markers together with the texts between them are the body
(`weave_gapsFrom`). -/

namespace PageLoom
namespace Template

/-- The markers of `body` that open at or after a position, from left to right. -/
inductive Markers (body : Text) : Nat → List Expression → Prop where
  | none {pos : Nat} (hnone : ∀ i, pos ≤ i → ¬ Marker.opening <+: body.drop i) :
      Markers body pos []
  | marker {pos start close : Nat} {es : List Expression} (hpos : pos ≤ start)
      (hopen : Marker.opening <+: body.drop start)
      (hfirst : ∀ i, pos ≤ i → i < start → ¬ Marker.opening <+: body.drop i)
      (hclose : Marker.close? body (start + 2) = some close)
      (hrest : Markers body (close + 2) es) :
      Markers body pos (expressionAt body start close :: es)

/-! ## Reading a body -/

/-- A body with a marker at `start` and none before has the markers behind that one, too. -/
theorem markers_iff_of_first {body : Text} {pos start : Nat} (hpos : pos ≤ start)
    (hopen : Marker.opening <+: body.drop start)
    (hfirst : ∀ i, pos ≤ i → i < start → ¬ Marker.opening <+: body.drop i)
    (es : List Expression) :
    Markers body pos es ↔
      ∃ close rest, Marker.close? body (start + 2) = some close ∧ Markers body (close + 2) rest ∧
        es = expressionAt body start close :: rest := by
  constructor
  · intro h
    cases h with
    | none hnone => exact absurd hopen (hnone start hpos)
    | @marker _ start' close rest hpos' hopen' hfirst' hclose hrest =>
        obtain rfl : start = start' := by
          rcases Nat.lt_trichotomy start start' with hlt | heq | hlt
          · exact absurd hopen (hfirst' start hpos hlt)
          · exact heq
          · exact absurd hopen' (hfirst start' hpos' hlt)
        exact ⟨close, rest, hclose, hrest, rfl⟩
  · rintro ⟨close, rest, hclose, hrest, rfl⟩
    exact .marker hpos hopen hfirst hclose hrest

/-- With enough fuel, exactly the markers of the body are read. -/
theorem expressionsFrom_eq_ok_iff (body : Text) (fuel pos : Nat) (hfuel : body.length < fuel + pos)
    (es : List Expression) :
    expressionsFrom body fuel pos = .ok es ↔ Markers body pos es := by
  induction fuel generalizing pos es with
  | zero =>
      -- The fuel ends only behind the body, where no marker opens.
      have hnone : ∀ i, pos ≤ i → ¬ Marker.opening <+: body.drop i := by
        intro i hi hpre
        have hlt := Text.lt_length_of_prefix_drop hpre (by simp [Marker.opening])
        omega
      constructor
      · rintro ⟨rfl⟩
        exact .none hnone
      · rintro (_ | ⟨hpos, hopen⟩)
        · rfl
        · exact absurd hopen (hnone _ hpos)
  | succ fuel ih =>
      rw [expressionsFrom]
      cases hfind : Text.findFrom? Marker.opening body pos with
      | none =>
          have hnone := (findFrom?_opening_eq_none_iff body pos).1 hfind
          constructor
          · rintro ⟨rfl⟩
            exact .none hnone
          · rintro (_ | ⟨hpos, hopen⟩)
            · rfl
            · exact absurd hopen (hnone _ hpos)
      | some start =>
          obtain ⟨hpos, hopen, hfirst⟩ := (findFrom?_opening_eq_some_iff body pos start).1 hfind
          rw [markers_iff_of_first hpos hopen hfirst]
          cases hclose : Marker.close? body (start + 2) with
          | none => simp [hclose]
          | some close =>
              have hle := (Marker.closing_prefix_of_close? hclose).1
              simp only [hclose, Result.map_eq_ok_iff, ih (close + 2) (by omega), Option.some.injEq]
              constructor
              · rintro ⟨rest, hrest, rfl⟩
                exact ⟨close, rest, rfl, hrest, rfl⟩
              · rintro ⟨_, rest, rfl, hrest, rfl⟩
                exact ⟨rest, hrest, rfl⟩

theorem expressionsIn_eq_ok_iff (body : Text) (es : List Expression) :
    expressionsIn body = .ok es ↔ Markers body 0 es :=
  expressionsFrom_eq_ok_iff body (body.length + 1) 0 (by omega) es

/-! ## Reading a source -/

/-- A source has a declarations block exactly when an opening brace is the first thing in it. -/
theorem split_eq_ok_iff (source declarations body : Text) :
    split source = .ok (declarations, body) ↔
      (¬ Marker.opening <+: Text.trimStart source ∧ declarations = [] ∧ body = source) ∨
        (Marker.opening <+: Text.trimStart source ∧
          ∃ close, Marker.close? (Text.trimStart source) 2 = some close ∧
            declarations = Text.trim (Text.slice (Text.trimStart source) 2 close) ∧
            body = (Text.trimStart source).drop (close + 2)) := by
  rw [split]
  by_cases hopen : Marker.opening <+: Text.trimStart source
  · simp only [List.isPrefixOf_iff_prefix, hopen, if_true, not_true_eq_false, false_and, true_and,
      false_or]
    cases Marker.close? (Text.trimStart source) 2 with
    | none => simp
    | some close => simp [eq_comm]
  · simp only [List.isPrefixOf_iff_prefix, hopen, if_false, not_false_eq_true, false_and, true_and,
      or_false]
    simp [eq_comm]

theorem parse_eq_ok_iff (source : Text) (t : Template) :
    parse source = .ok t ↔
      split source = .ok (t.declarations, t.body) ∧ Markers t.body 0 t.expressions := by
  obtain ⟨declarations, body, es⟩ := t
  simp only [parse, Result.bind_eq_ok_iff, Prod.exists, expressionsIn_eq_ok_iff]
  constructor
  · rintro ⟨declarations', body', hsplit, es', hmarkers, hok⟩
    cases hok
    exact ⟨hsplit, hmarkers⟩
  · rintro ⟨hsplit, hmarkers⟩
    exact ⟨declarations, body, hsplit, es, hmarkers, rfl⟩

/-! ## What the markers are -/

/-- All markers of a body are closed, and behind them nothing opens. -/
theorem Markers.closed {body : Text} {pos : Nat} {es : List Expression}
    (h : Markers body pos es) :
    ∃ stop, Closed body pos es stop ∧ Text.findFrom? Marker.opening body stop = .none := by
  induction h with
  | @none pos hnone => exact ⟨pos, .nil pos, (findFrom?_opening_eq_none_iff body pos).2 hnone⟩
  | @marker pos start close es hpos hopen hfirst hclose _ ih =>
      obtain ⟨stop, hclosed, hnone⟩ := ih
      have hfind := (findFrom?_opening_eq_some_iff body pos start).2 ⟨hpos, hopen, hfirst⟩
      exact ⟨stop, .cons hfind hclose hclosed, hnone⟩

/-- Every marker is one that opens at its start and is closed. -/
theorem Markers.exists_close {body : Text} {pos : Nat} {es : List Expression}
    (h : Markers body pos es) : ∀ e ∈ es, ∃ close, Marker.opening <+: body.drop e.start ∧
      Marker.close? body (e.start + 2) = some close ∧ e = expressionAt body e.start close := by
  obtain ⟨stop, hclosed, -⟩ := h.closed
  exact hclosed.exists_close

/-- Markers follow each other without overlap. -/
theorem Markers.pairwise {body : Text} {pos : Nat} {es : List Expression}
    (h : Markers body pos es) : es.Pairwise fun e f => e.stop ≤ f.start := by
  obtain ⟨stop, hclosed, -⟩ := h.closed
  exact hclosed.pairwise

/-- No opening brace stands outside of the markers. -/
theorem Markers.covers {body : Text} {pos : Nat} {es : List Expression}
    (h : Markers body pos es) : ∀ i, pos ≤ i → Marker.opening <+: body.drop i →
      ∃ e ∈ es, e.start ≤ i ∧ i < e.stop := by
  obtain ⟨stop, hclosed, hnone⟩ := h.closed
  intro i hpos hpre
  have hlt : i < stop := by
    by_contra hle
    exact (findFrom?_opening_eq_none_iff body stop).1 hnone i (by omega) hpre
  exact hclosed.covers i hpos hlt hpre

/-- Markers as they stand in a body: each takes some of it, and ends before the next begins. -/
structure Spaced (body : Text) (es : List Expression) : Prop where
  ordered : es.Pairwise fun e f => e.stop ≤ f.start
  span : ∀ e ∈ es, e.start + 4 ≤ e.stop ∧ e.stop ≤ body.length

theorem Markers.spaced {body : Text} {pos : Nat} {es : List Expression}
    (h : Markers body pos es) : Spaced body es := by
  refine ⟨h.pairwise, fun e he => ?_⟩
  obtain ⟨close, _, hclose, heq⟩ := h.exists_close e he
  rw [heq]
  exact span_of_close? hclose

theorem Spaced.tail {body : Text} {e : Expression} {es : List Expression}
    (h : Spaced body (e :: es)) : Spaced body es :=
  ⟨h.ordered.tail, fun f hf => h.span f (List.mem_cons_of_mem _ hf)⟩

theorem Spaced.stop_le {body : Text} {e : Expression} {es : List Expression}
    (h : Spaced body (e :: es)) : ∀ f ∈ es, e.stop ≤ f.start :=
  (List.pairwise_cons.1 h.ordered).1

/-- Markers of a body have different offsets, in their order. -/
theorem Spaced.start_lt {body : Text} {es : List Expression} (h : Spaced body es) :
    es.Pairwise fun e f => e.start < f.start := by
  refine h.ordered.imp_of_mem fun he _ hle => ?_
  have hspan := h.span _ he
  omega

/-! ## Gaps -/

/-- The texts before, between and behind markers, from a position on. -/
def gapsFrom (body : Text) : Nat → List Expression → List Text
  | pos, [] => [body.drop pos]
  | pos, e :: rest => Text.slice body pos e.start :: gapsFrom body e.stop rest

/-- The gaps of a template: what its body holds besides the markers. -/
def gaps (t : Template) : List Text := gapsFrom t.body 0 t.expressions

/-- Texts put between neighbouring gaps, one by one. -/
def weave : List Text → List Text → Text
  | gap :: gaps, text :: texts => gap ++ text ++ weave gaps texts
  | gaps, _ => gaps.flatten

theorem length_gapsFrom (body : Text) (pos : Nat) (es : List Expression) :
    (gapsFrom body pos es).length = es.length + 1 := by
  induction es generalizing pos with
  | nil => rfl
  | cons e rest ih => simp [gapsFrom, ih]

/-- The first gap may be cut anywhere. -/
theorem weave_gapsFrom_eq_slice_append {body : Text} {pos cut : Nat} {es : List Expression}
    (hpos : pos ≤ cut) (hcut : ∀ e ∈ es, cut ≤ e.start) (texts : List Text) :
    weave (gapsFrom body pos es) texts =
      Text.slice body pos cut ++ weave (gapsFrom body cut es) texts := by
  cases es with
  | nil =>
      have hdrop : Text.slice body pos cut ++ body.drop cut = body.drop pos :=
        Text.slice_append_drop body hpos
      cases texts <;> simp [gapsFrom, weave, ← hdrop]
  | cons e rest =>
      have hslice : Text.slice body pos cut ++ Text.slice body cut e.start =
          Text.slice body pos e.start :=
        Text.slice_append_slice body hpos (hcut e (List.mem_cons_self ..))
      cases texts <;> simp [gapsFrom, weave, ← hslice]

/-- The gaps with the markers between them are the body. -/
theorem weave_gapsFrom {body : Text} {pos : Nat} {es : List Expression}
    (h : Markers body pos es) : weave (gapsFrom body pos es) (es.map (·.text)) = body.drop pos := by
  induction h with
  | none => simp [gapsFrom, weave]
  | @marker pos start close es hpos _ _ hclose _ ih =>
      have hspan := span_of_close? hclose
      rw [gapsFrom, List.map_cons, weave]
      rw [show (expressionAt body start close).stop = close + 2 from rfl, ih, List.append_assoc]
      rw [show (expressionAt body start close).text = Text.slice body start (close + 2) from rfl,
        Text.slice_append_drop body (by omega)]
      exact Text.slice_append_drop body hpos

end Template
end PageLoom
