import Mathlib.Data.List.TakeWhile
import PageLoom.Proofs.Template.Markers

set_option autoImplicit false

/-! # Sources that do not parse

A source fails to parse at its first marker that is never closed, and the error tells where that
marker opens (`reported_of_parse`). All markers before it are closed, and together with the block
they are markers of the whole source, too (`Closed.inSource`). -/

namespace PageLoom
namespace Template

/-! ## Reading up to a marker that never closes -/

/-- A body is read up to its first marker that is never closed. -/
theorem exists_closed_of_expressionsFrom {body : Text} {fuel pos : Nat} {fault : PageError}
    (h : expressionsFrom body fuel pos = .error fault) :
    ∃ es stop start, Closed body pos es stop ∧
      Text.findFrom? Marker.opening body stop = some start ∧
      Marker.close? body (start + 2) = none ∧ fault = .unclosedExpression start body := by
  induction fuel generalizing pos with
  | zero => simp [expressionsFrom] at h
  | succ fuel ih =>
      rw [expressionsFrom] at h
      cases hfind : Text.findFrom? Marker.opening body pos with
      | none => simp [hfind] at h
      | some start =>
          cases hclose : Marker.close? body (start + 2) with
          | none =>
              simp only [hfind, hclose, Except.error.injEq] at h
              exact ⟨[], pos, start, .nil pos, hfind, hclose, h.symm⟩
          | some close =>
              simp only [hfind, hclose, Result.map_eq_error_iff] at h
              obtain ⟨es, stop, start', hclosed, hfind', hclose', hfault⟩ := ih h
              exact ⟨_, stop, start', .cons hfind hclose hclosed, hfind', hclose', hfault⟩

theorem split_eq_error_iff (source : Text) (fault : PageError) :
    split source = .error fault ↔
      Marker.opening <+: Text.trimStart source ∧ Marker.close? (Text.trimStart source) 2 = none ∧
        fault = .unclosedDeclarations (source.length - (Text.trimStart source).length) source := by
  rw [split]
  by_cases hopen : Marker.opening <+: Text.trimStart source
  · simp only [List.isPrefixOf_iff_prefix, hopen, if_true, true_and]
    cases Marker.close? (Text.trimStart source) 2 with
    | none => simp [eq_comm]
    | some close => simp
  · simp [List.isPrefixOf_iff_prefix, hopen]

theorem parse_eq_error_iff (source : Text) (fault : PageError) :
    parse source = .error fault ↔
      split source = .error fault ∨
        ∃ declarations body, split source = .ok (declarations, body) ∧
          expressionsIn body = .error fault := by
  simp only [parse, Result.bind_eq_error_iff, Prod.exists]
  refine or_congr_right ⟨?_, ?_⟩
  · rintro ⟨declarations, body, hsplit, hbody | ⟨es, _, hpure⟩⟩
    · exact ⟨declarations, body, hsplit, hbody⟩
    · cases hpure
  · rintro ⟨declarations, body, hsplit, hbody⟩
    exact ⟨declarations, body, hsplit, Or.inl hbody⟩

/-! ## The block and the body in the source -/

/-- No opening brace begins in blanks. -/
theorem find?_opening_append_of_blank {blanks : Text} (hblank : ∀ c ∈ blanks, Text.isBlank c)
    (t : Text) :
    Text.find? Marker.opening (blanks ++ t) =
      (Text.find? Marker.opening t).map (blanks.length + ·) := by
  induction blanks with
  | nil => simp
  | cons c rest ih =>
      have hbrace : c ≠ '{' := by
        rintro rfl
        exact absurd (hblank '{' (List.mem_cons_self ..)) (by decide)
      rw [List.cons_append, Text.find?, if_neg, ih fun d hd => hblank d (List.mem_cons_of_mem _ hd),
        Option.map_map]
      · refine Option.map_congr fun i _ => ?_
        simp only [Function.comp_apply, List.length_cons]
        omega
      · rw [List.isPrefixOf_iff_prefix]
        intro hpre
        exact hbrace (List.cons_prefix_cons.1 hpre).1.symm

/-- How many blanks a source begins with. -/
def blanksBefore (source : Text) : Nat := source.length - (Text.trimStart source).length

theorem length_takeWhile_isBlank (source : Text) :
    (source.takeWhile Text.isBlank).length = blanksBefore source := by
  have hlen := congrArg List.length (Text.trimStart_append_dropped source)
  rw [List.length_append] at hlen
  rw [blanksBefore]
  omega

/-- An opening brace as the first thing in a source is its first one. -/
theorem findFrom?_opening_of_trimStart {source : Text}
    (hopen : Marker.opening <+: Text.trimStart source) :
    Text.findFrom? Marker.opening source 0 = some (blanksBefore source) := by
  have hblank : ∀ c ∈ source.takeWhile Text.isBlank, Text.isBlank c :=
    fun c hc => List.mem_takeWhile_imp hc
  have hfirst : Text.find? Marker.opening (Text.trimStart source) = some 0 := by
    rw [Text.find?_eq_some_iff]
    exact ⟨Nat.zero_le _, hopen, fun j hj => absurd hj (Nat.not_lt_zero j)⟩
  have hfind := find?_opening_append_of_blank hblank (Text.trimStart source)
  rw [Text.trimStart_append_dropped, hfirst, length_takeWhile_isBlank] at hfind
  rw [Text.findFrom?, List.drop_zero, hfind]
  rfl

/-- The scan for the end of a block begins behind its blanks. -/
theorem close?_blanksBefore (source : Text) :
    Marker.close? source (blanksBefore source + 2) =
      (Marker.close? (Text.trimStart source) 2).map (· + blanksBefore source) := by
  have hclose := Marker.close?_append_left (source.takeWhile Text.isBlank) (Text.trimStart source) 2
  rwa [Text.trimStart_append_dropped, length_takeWhile_isBlank] at hclose

/-- The block before the body, as a marker of the source; a body that is the whole source has no
    block before it. -/
def blockIn (source body : Text) : List Expression :=
  if body.length < source.length then
    [expressionAt source (blanksBefore source) (source.length - body.length - 2)]
  else []

/-- The block, if there is one, is the first marker of the source, and the body follows it. -/
theorem closed_blockIn {source declarations body : Text}
    (h : split source = .ok (declarations, body)) :
    Closed source 0 (blockIn source body) (source.length - body.length) ∧ body <:+ source := by
  rcases (split_eq_ok_iff source declarations body).1 h with ⟨-, -, rfl⟩ | ⟨hopen, close, hclose, -, rfl⟩
  · simp [blockIn, Closed.nil]
  · have hclose' : Marker.close? source (blanksBefore source + 2) =
        some (close + blanksBefore source) := by
      rw [close?_blanksBefore, hclose]
      rfl
    have hspan := span_of_close? hclose'
    have hsuffix : Text.trimStart source <:+ source := List.dropWhile_suffix _
    have hle := hsuffix.length_le
    have hlen : source.length - ((Text.trimStart source).drop (close + 2)).length =
        close + blanksBefore source + 2 := by
      rw [blanksBefore] at hspan ⊢
      rw [List.length_drop]
      omega
    have hlt : ((Text.trimStart source).drop (close + 2)).length < source.length := by omega
    refine ⟨?_, (List.drop_suffix _ _).trans hsuffix⟩
    rw [blockIn, if_pos hlt, hlen, Nat.add_sub_cancel]
    exact .cons (findFrom?_opening_of_trimStart hopen) hclose' (.nil _)

/-- The markers of a source: its block and the markers of its body, where they stand in the
    source. -/
def inSource (source body : Text) (es : List Expression) : List Expression :=
  blockIn source body ++ es.map (movedBy (source.length - body.length))

/-- A text at the end of another, with what stands before it. -/
theorem exists_before_of_suffix {body source : Text} (h : body <:+ source) :
    ∃ before, before.length = source.length - body.length ∧ before ++ body = source := by
  obtain ⟨before, hsource⟩ := h
  refine ⟨before, ?_, hsource⟩
  rw [← hsource, List.length_append, Nat.add_sub_cancel]

/-- The first markers of the body are, behind the block, the first markers of the source. -/
theorem Closed.inSource {source declarations body : Text}
    (hsplit : split source = .ok (declarations, body)) {es : List Expression} {stop : Nat}
    (h : Closed body 0 es stop) :
    Closed source 0 (inSource source body es) (source.length - body.length + stop) := by
  obtain ⟨hblock, hsuffix⟩ := closed_blockIn hsplit
  obtain ⟨before, hlen, hsource⟩ := exists_before_of_suffix hsuffix
  have hmoved := h.append_left before
  rw [hsource, hlen, Nat.add_zero] at hmoved
  exact hblock.trans hmoved

/-! ## What an error reports -/

/-- What is told of a text with an error in it: a marker opens at `position` and never closes, and
    the markers before it are `closed`. -/
structure Reported (text : Text) (position : Nat) (closed : List Expression) : Prop where
  opens : Marker.opening <+: text.drop position
  unclosed : Marker.close? text (position + 2) = none
  before : ∀ e ∈ closed, e.stop ≤ position ∧ ∃ close, Marker.opening <+: text.drop e.start ∧
    Marker.close? text (e.start + 2) = some close ∧ e = expressionAt text e.start close
  ordered : closed.Pairwise fun e f => e.stop ≤ f.start
  /-- An opening brace before the position stands in one of the markers. -/
  covered : ∀ i < position, Marker.opening <+: text.drop i → ∃ e ∈ closed, e.start ≤ i ∧ i < e.stop

theorem Closed.reported {text : Text} {closed : List Expression} {stop position : Nat}
    (h : Closed text 0 closed stop)
    (hfind : Text.findFrom? Marker.opening text stop = some position)
    (hclose : Marker.close? text (position + 2) = none) : Reported text position closed := by
  obtain ⟨hstop, hopen, hfirst⟩ := (findFrom?_opening_eq_some_iff text stop position).1 hfind
  refine ⟨hopen, hclose, fun e he => ?_, h.pairwise, fun i hi hpre => ?_⟩
  · have hend := (h.bounds.2 e he).2
    exact ⟨by omega, h.exists_close e he⟩
  · have hlt : i < stop := by
      by_contra hle
      exact hfirst i (by omega) hi hpre
    exact h.covers i (Nat.zero_le i) hlt hpre

/-- All markers of a source that parses are closed. -/
theorem closed_of_parse {source : Text} {t : Template} (h : parse source = .ok t) :
    ∃ stop, Closed source 0 (inSource source t.body t.expressions) stop ∧
      Text.findFrom? Marker.opening source stop = none := by
  obtain ⟨hsplit, hmarkers⟩ := (parse_eq_ok_iff source t).1 h
  obtain ⟨stop, hclosed, hnone⟩ := hmarkers.closed
  obtain ⟨before, hlen, hsource⟩ := exists_before_of_suffix (closed_blockIn hsplit).2
  refine ⟨source.length - t.body.length + stop, hclosed.inSource hsplit, ?_⟩
  rw [← hlen, ← hsource, Text.findFrom?_append_left, hnone]
  rfl

/-- A source that does not parse is read up to the marker that is reported. -/
theorem reported_of_parse {source : Text} {fault : PageError} (h : parse source = .error fault) :
    ∃ (text : Text) (position : Nat) (closed : List Expression) (stop : Nat),
      fault.kind = .unclosed (some position) text ∧ text <:+ source ∧
      Reported text position closed ∧ Closed source 0 (inSource source text closed) stop ∧
      Text.findFrom? Marker.opening source stop = some (source.length - text.length + position) ∧
      Marker.close? source (source.length - text.length + position + 2) = none := by
  rcases (parse_eq_error_iff source fault).1 h with hblock | ⟨declarations, body, hsplit, hbody⟩
  · -- The block is reported at its place in the source, and nothing stands before it.
    obtain ⟨hopen, hclose, rfl⟩ := (split_eq_error_iff source fault).1 hblock
    have hfind := findFrom?_opening_of_trimStart hopen
    have hclose' : Marker.close? source (blanksBefore source + 2) = none := by
      rw [close?_blanksBefore, hclose]
      rfl
    have hclosed : Closed source 0 (inSource source source []) 0 := by
      simp [inSource, blockIn, Closed.nil]
    refine ⟨source, blanksBefore source, [], 0, rfl, List.suffix_refl source,
      (Closed.nil 0).reported hfind hclose', hclosed, ?_, ?_⟩
    · rw [hfind, Nat.sub_self, Nat.zero_add]
    · rw [Nat.sub_self, Nat.zero_add, hclose']
  · obtain ⟨es, stop, start, hclosed, hfind, hclose, rfl⟩ :=
      exists_closed_of_expressionsFrom hbody
    have hsuffix := (closed_blockIn hsplit).2
    obtain ⟨before, hlen, hsource⟩ := exists_before_of_suffix hsuffix
    refine ⟨body, start, es, source.length - body.length + stop, rfl, hsuffix,
      hclosed.reported hfind hclose, hclosed.inSource hsplit, ?_, ?_⟩
    · rw [← hlen, ← hsource, Text.findFrom?_append_left, hfind]
      rfl
    · rw [← hlen, ← hsource, Nat.add_assoc, Marker.close?_append_left, hclose]
      rfl

/-- Read marker by marker, the source comes to one, which may be its block, that never closes. -/
def LeftOpen (source : Text) : Prop :=
  ∃ closed stop start, Closed source 0 closed stop ∧
    Text.findFrom? Marker.opening source stop = some start ∧
    Marker.close? source (start + 2) = none

theorem leftOpen_of_parse {source : Text} {fault : PageError}
    (h : parse source = .error fault) : LeftOpen source := by
  obtain ⟨text, position, closed, stop, -, -, -, hclosed, hfind, hclose⟩ := reported_of_parse h
  exact ⟨_, stop, _, hclosed, hfind, hclose⟩

/-- Every source is read marker by marker until no marker opens or the one that opens never
    closes. -/
theorem exists_closed (source : Text) : ∃ closed stop, Closed source 0 closed stop ∧
    ∀ start, Text.findFrom? Marker.opening source stop = some start →
      Marker.close? source (start + 2) = none := by
  cases hparse : parse source with
  | ok t =>
      obtain ⟨stop, hclosed, hnone⟩ := closed_of_parse hparse
      exact ⟨_, stop, hclosed, by simp [hnone]⟩
  | error fault =>
      obtain ⟨closed, stop, first, hclosed, hfind, hclose⟩ := leftOpen_of_parse hparse
      refine ⟨closed, stop, hclosed, fun start hstart => ?_⟩
      obtain rfl := Option.some.inj (hfind.symm.trans hstart)
      exact hclose

theorem not_leftOpen_of_parse {source : Text} {t : Template} (h : parse source = .ok t) :
    ¬ LeftOpen source := by
  rintro ⟨closed, stop, start, hclosed, hfind, hclose⟩
  obtain ⟨stop', hall, hnone⟩ := closed_of_parse h
  exact hall.close?_ne_none hnone hclosed hfind hclose

end Template
end PageLoom
