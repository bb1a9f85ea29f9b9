import PageLoom.Proofs.Directive.Grammar
import PageLoom.Proofs.Template.Printing

set_option autoImplicit false

/-! # Directives inside markers

The scan for the end of a marker and the matcher of directives have each their own notion of a
quoted text: the scan knows three quotes and a backslash that takes the next character with it, the
matcher two quotes and no backslash. On a directive they agree. Outside of its path a directive
holds neither quotes nor braces, and its path is a literal of the scan, too, so that a directive is
balanced (`balanced_of_match?`): the marker around it ends where it was written to end, whatever
the path is made of. -/

namespace PageLoom

/-! ## Texts around a literal -/

namespace Marker

/-- A text that the scan passes over one character at a time. -/
def IsPlain (t : Text) : Prop := ∀ c ∈ t, isQuote c = false ∧ c ≠ '{' ∧ c ≠ '}'

theorem IsPlain.append {s t : Text} (hs : IsPlain s) (ht : IsPlain t) : IsPlain (s ++ t) := by
  intro c hc
  rcases List.mem_append.1 hc with h | h
  · exact hs c h
  · exact ht c h

theorem IsPlain.cons {c : Char} {t : Text} (hc : isQuote c = false ∧ c ≠ '{' ∧ c ≠ '}')
    (ht : IsPlain t) : IsPlain (c :: t) :=
  List.forall_mem_cons.2 ⟨hc, ht⟩

/-- A text of a class is plain if no quote and no brace is in the class. -/
theorem IsPlain.of_class {p : Char → Bool} {t : Text}
    (hp : ['"', '\'', '`', '{', '}'].any p = false) (ht : ∀ c ∈ t, p c) : IsPlain t := by
  intro c hc
  have hnot : c ∉ ['"', '\'', '`', '{', '}'] := by
    intro hmem
    have hany : ['"', '\'', '`', '{', '}'].any p = true := List.any_eq_true.2 ⟨c, hmem, ht c hc⟩
    exact absurd (hany.symm.trans hp) nofun
  simp only [List.mem_cons, List.not_mem_nil, or_false, not_or] at hnot
  obtain ⟨hdouble, hsingle, hback, hopen, hclose⟩ := hnot
  exact ⟨by simp [isQuote, hdouble, hsingle, hback], hopen, hclose⟩

theorem tokens_plain_append {t : Text} (h : IsPlain t) (more : Text) :
    tokens (t ++ more) = t.map Token.single ++ tokens more := by
  induction t with
  | nil => rfl
  | cons c t ih =>
      obtain ⟨⟨hquote, hopen, hclose⟩, ht⟩ := List.forall_mem_cons.1 h
      rw [List.cons_append, tokens_single hquote (absurd · hopen) (absurd · hclose), ih ht]
      rfl

/-- Without a backslash a literal ends at its next quote. -/
theorem cutLiteral?_of_notMem {quote : Char} {inner : Text} (hquote : quote ≠ '\\')
    (hnot : quote ∉ inner) (hslash : '\\' ∉ inner) (after : Text) :
    cutLiteral? quote (inner ++ quote :: after) = some (inner ++ [quote], after) := by
  induction inner with
  | nil => rw [List.nil_append, cutLiteral?_cons_of_ne hquote, if_pos rfl, List.nil_append]
  | cons c inner ih =>
      obtain ⟨hne, hnot⟩ := List.ne_and_not_mem_of_not_mem_cons hnot
      obtain ⟨hne', hslash⟩ := List.ne_and_not_mem_of_not_mem_cons hslash
      rw [List.cons_append, cutLiteral?_cons_of_ne (Ne.symm hne'), if_neg (Ne.symm hne),
        ih hnot hslash]
      rfl

variable {front back path : Text} {quote : Char}

/-- A literal between plain texts is one token between single ones. -/
theorem tokens_around_literal (hfront : IsPlain front) (hback : IsPlain back)
    (hquote : isQuote quote) (hnot : quote ∉ path) (hslash : '\\' ∉ path) :
    tokens (front ++ quote :: (path ++ quote :: back)) =
      front.map .single ++ .literal (quote :: (path ++ [quote])) true :: back.map .single := by
  have hback' : tokens back = back.map Token.single := by
    simpa [tokens] using tokens_plain_append hback []
  rw [tokens_plain_append hfront, tokens_literal hquote
    (cutLiteral?_of_notMem (isQuote_ne_backslash hquote) hnot hslash back), hback']

theorem nested_singles (t : Text) {ks : List Token} (h : Nested ks) :
    Nested (t.map Token.single ++ ks) := by
  induction t with
  | nil => exact h
  | cons c t ih => exact .single c ih

/-- A literal between plain texts may stand inside a marker. -/
theorem balanced_around_literal (hfront : IsPlain front) (hback : IsPlain back)
    (hquote : isQuote quote) (hnot : quote ∉ path) (hslash : '\\' ∉ path) :
    Balanced (front ++ quote :: (path ++ quote :: back)) := by
  have htokens := tokens_around_literal hfront hback hquote hnot hslash
  refine ⟨?_, ?_, ?_⟩ <;> rw [htokens]
  · intro k hk
    simp only [List.mem_append, List.mem_map, List.mem_cons] at hk
    rcases hk with ⟨c, -, rfl⟩ | rfl | ⟨c, -, rfl⟩ <;> rfl
  · refine nested_singles front (.literal _ true ?_)
    simpa using nested_singles back .nil
  · intro hlast
    rw [List.getLast?_append_cons, List.getLast?_cons, List.getLast?_map,
      Option.some.injEq] at hlast
    cases hend : back.getLast? with
    | none => simp [hend] at hlast
    | some c =>
        simp only [hend, Option.map_some, Option.getD_some, Token.single.injEq] at hlast
        exact (hback c (List.mem_of_getLast? hend)).2.2 hlast

end Marker

/-! ## Directives are balanced -/

namespace Directive

open Marker (IsPlain)

theorem isPlain_of_isBlank {blanks : Text} (h : ∀ c ∈ blanks, Text.isBlank c) : IsPlain blanks :=
  .of_class (by decide) h

theorem isPlain_of_isName {name : Text} (h : IsName name) : IsPlain name := by
  match name, h with
  | c :: rest, h =>
      obtain ⟨hstart, hrest⟩ := (isName_cons_iff c rest).1 h
      have hfirst : IsPlain [c] := .of_class (p := isNameStart) (by decide) (by simpa using hstart)
      have hothers : IsPlain rest := .of_class (by decide +kernel) hrest
      exact hfirst.append hothers

/-- A spelling may stand inside a marker, with blanks around it. -/
theorem Spelling.balanced_text (s : Spelling) {before after : Text}
    (hbefore : ∀ c ∈ before, Text.isBlank c) (hafter : ∀ c ∈ after, Text.isBlank c) :
    Marker.Balanced (before ++ s.text ++ after) := by
  have hleft : Marker.isQuote '(' = false ∧ '(' ≠ '{' ∧ '(' ≠ '}' := by decide
  have hright : Marker.isQuote ')' = false ∧ ')' ≠ '{' ∧ ')' ≠ '}' := by decide
  have hfront : IsPlain (before ++ (s.name ++ '(' :: s.before)) :=
    (isPlain_of_isBlank hbefore).append ((isPlain_of_isName s.isName).append
      ((isPlain_of_isBlank s.blank_before).cons hleft))
  have hback : IsPlain (s.after ++ ')' :: after) :=
    (isPlain_of_isBlank s.blank_after).append
      ((isPlain_of_isBlank hafter).cons hright)
  have hquote : Marker.isQuote s.quote := by
    rcases s.isQuote with h | h <;> rw [h] <;> rfl
  have hbalanced := Marker.balanced_around_literal hfront hback hquote s.quote_notMem
    s.backslash_notMem
  simpa [Spelling.text] using hbalanced

end Directive

namespace Registry

open Directive Template Printout

variable {registry : Registry} {raw : Text} {call : Call} {d : Directive}

theorem balanced_of_match? (h : registry.match? raw = some (call, d)) : Marker.Balanced raw := by
  obtain ⟨s, htrim, -⟩ := (match?_eq_some_iff registry raw call d).1 h
  obtain ⟨before, after, hbefore, hafter, hraw⟩ := Text.exists_trim_frame raw
  rw [hraw, htrim]
  exact s.balanced_text hbefore hafter

/-- The blanks around a directive do not matter. -/
theorem match?_trim (h : registry.match? raw = some (call, d)) :
    registry.match? (Text.trim raw) = some (call, d) := by
  obtain ⟨s, htrim, hcall, hget⟩ := (match?_eq_some_iff registry raw call d).1 h
  refine (match?_eq_some_iff ..).2 ⟨s, ?_, hcall, hget⟩
  have hself : Text.trim ([] ++ s.text ++ []) = s.text := s.trim_text (by simp) (by simp)
  rw [htrim]
  simpa using hself

/-- If the first marker of a body is printed around a balanced text, the other markers are those
    behind it. -/
theorem markers_of_first_printed {before inner after : Text} (hin : ¬ Marker.opening <:+: before)
    (hend : before.getLast? ≠ some '{') (hinner : Marker.Balanced inner) (es : List Expression) :
    Markers (before ++ printMarker inner ++ after) 0 es ↔
      ∃ rest, Markers (before ++ printMarker inner ++ after)
        (before.length + (printMarker inner).length) rest ∧
          es = markerAt before.length inner :: rest := by
  have hbody : before ++ printMarker inner ++ after =
      before ++ (Marker.opening ++ (inner ++ (Marker.closing ++ after))) := by
    simp [printMarker]
  have hopen : Marker.opening <+: (before ++ printMarker inner ++ after).drop before.length := by
    rw [hbody, List.drop_left]
    exact List.prefix_append _ _
  have hfirst : ∀ i, 0 ≤ i → i < before.length →
      ¬ Marker.opening <+: (before ++ printMarker inner ++ after).drop i := by
    intro i _ hi
    rw [List.append_assoc]
    exact not_opening_prefix_drop_append hin hend _ hi
  have hclose := Marker.close?_printed hinner before after
  have hlength : before.length + 2 + inner.length + 2 =
      before.length + (printMarker inner).length := by
    rw [length_printMarker]
    omega
  rw [markers_iff_of_first (Nat.zero_le _) hopen hfirst]
  constructor
  · rintro ⟨close, rest, hclose', hrest, rfl⟩
    rw [hbody, hclose, Option.some.injEq] at hclose'
    subst hclose'
    refine ⟨rest, hlength ▸ hrest, ?_⟩
    rw [hbody, expressionAt_printed]
  · rintro ⟨rest, hrest, rfl⟩
    refine ⟨before.length + 2 + inner.length, rest, hbody ▸ hclose, hlength ▸ hrest, ?_⟩
    rw [hbody, expressionAt_printed]

/-- Then the source is read if the text behind that marker is, with the marker as the first of its
    expressions. -/
theorem parse_of_first_printed {source declarations before inner after : Text}
    (hsplit : split source = .ok (declarations, before ++ printMarker inner ++ after))
    (hin : ¬ Marker.opening <:+: before) (hend : before.getLast? ≠ some '{')
    (hinner : Marker.Balanced inner) (t : Template) :
    parse source = .ok t ↔ ∃ es,
      Markers (before ++ printMarker inner ++ after)
        (before.length + (printMarker inner).length) es ∧
      t = ⟨declarations, before ++ printMarker inner ++ after,
        markerAt before.length inner :: es⟩ := by
  obtain ⟨declarations', body, es⟩ := t
  rw [parse_eq_ok_iff, hsplit]
  constructor
  · rintro ⟨hparts, hmarkers⟩
    obtain ⟨rfl, rfl⟩ := Prod.mk.inj (Except.ok.inj hparts)
    obtain ⟨rest, hrest, rfl⟩ := (markers_of_first_printed hin hend hinner es).1 hmarkers
    exact ⟨rest, hrest, rfl⟩
  · rintro ⟨rest, hrest, heq⟩
    obtain ⟨rfl, rfl, rfl⟩ := Template.mk.inj heq
    exact ⟨rfl, (markers_of_first_printed hin hend hinner _).2 ⟨rest, hrest, rfl⟩⟩

/-- **The scanner and the matcher agree on quoting.** The marker around a directive is closed right
    behind it, whatever follows. Where the first marker of a body is one around a directive, the
    source is read if the text behind that marker is, and the first expression is then the
    directive: it spans the marker as written, its text is the trimmed directive, and what is
    matched in it is the path between the quotes. -/
theorem parse_marker_of_match? (h : registry.match? raw = some (call, d)) :
    (∀ after, Marker.close? (Marker.opening ++ raw ++ Marker.closing ++ after) 2 =
      some (2 + raw.length)) ∧
    ∀ (source declarations before after : Text),
      split source = .ok (declarations, before ++ printMarker raw ++ after) →
      ¬ Marker.opening <:+: before → before.getLast? ≠ some '{' →
        ∃ e : Expression, e.raw = Text.trim raw ∧ e.text = printMarker raw ∧
          e.start = before.length ∧ e.stop = before.length + (printMarker raw).length ∧
          (∃ s : Spelling, e.raw = s.text ∧ call = ⟨s.name, s.path⟩ ∧
            registry.match? e.raw = some (⟨s.name, s.path⟩, d)) ∧
          (∀ t, parse source = .ok t ↔ ∃ es,
            Markers (before ++ printMarker raw ++ after) e.stop es ∧
              t = ⟨declarations, before ++ printMarker raw ++ after, e :: es⟩) ∧
          (¬ Marker.opening <:+: after →
            parse source = .ok ⟨declarations, before ++ printMarker raw ++ after, [e]⟩) := by
  have hbalanced := balanced_of_match? h
  constructor
  · intro after
    simpa using Marker.close?_printed hbalanced [] after
  · intro source declarations before after hsplit hin hend
    have hparse := parse_of_first_printed hsplit hin hend hbalanced
    obtain ⟨s, htrim, hcall, -⟩ := (match?_eq_some_iff registry raw call d).1 h
    have hmatch : registry.match? (Text.trim raw) = some (⟨s.name, s.path⟩, d) := by
      rw [match?_trim h, hcall]
      rfl
    refine ⟨markerAt before.length raw, rfl, rfl, rfl, rfl, ⟨s, htrim, hcall, hmatch⟩, hparse, ?_⟩
    intro hafter
    refine (hparse _).2 ⟨[], ?_, rfl⟩
    rw [← List.length_append]
    exact markers_nil_of_text _ hafter

/-- A path made of braces, of the other quote, of an accent and of line ends. -/
def knottedImport : Text := "\n importCSS( '\x7d\x7d\"\x7b\x7b`\n' )\t"

/-- Behind a declarations block and a text, the marker around such a path is the first one, and it
    gives the path back. -/
theorem parse_marker_knottedImport :
    ∃ call d e, Registry.match? .builtIn knottedImport = some (call, d) ∧
      call.path = "\x7d\x7d\"\x7b\x7b`\n" ∧
      parse (printMarker " let x = 1 " ++ "<head>" ++ printMarker knottedImport ++ Marker.closing) =
        .ok ⟨"let x = 1", "<head>" ++ printMarker knottedImport ++ Marker.closing, [e]⟩ ∧
      Registry.match? .builtIn e.raw = some (call, d) := by
  have hmatch : Registry.match? .builtIn knottedImport =
      some (⟨"importCSS", "\x7d\x7d\"\x7b\x7b`\n"⟩,
        ⟨.stylesheet, "<link rel=\"stylesheet\" href=\"\x7burl\x7d\">"⟩) := by
    decide +kernel
  obtain ⟨-, hread⟩ := parse_marker_of_match? hmatch
  obtain ⟨e, -, -, -, -, ⟨s, -, hcall, he⟩, -, hparse⟩ := hread _ _ _ _
    (by decide +kernel :
      split (printMarker " let x = 1 " ++ "<head>" ++ printMarker knottedImport ++ Marker.closing) =
        .ok ("let x = 1", "<head>" ++ printMarker knottedImport ++ Marker.closing))
    (by decide +kernel) (by decide +kernel)
  exact ⟨_, _, e, hmatch, rfl, hparse (by decide +kernel), hcall ▸ he⟩

end Registry
end PageLoom
