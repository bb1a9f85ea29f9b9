import Mathlib.Data.List.TakeWhile
import PageLoom.Proofs.Template.Markers

set_option autoImplicit false

/-! # Parsing undoes printing

A printout is a template before it is text: an optional declarations block, the texts of the body
and the insides of the markers between them. Under conditions on each of these texts alone, parsing
the printed source gives back every part, with the markers at the offsets where they were printed
(`parse_source_printout`). The scan for the end of a marker stops at the brace printed with it
because the inside is balanced, and the search for the next marker passes over a text because
neither the text nor its end with the next brace holds an opening brace. -/

namespace PageLoom
namespace Template

/-- A template before it is printed. -/
structure Printout where
  /-- The blanks before a declarations block and its inside. -/
  block : Option (Text × Text)
  /-- The text before the first marker. -/
  first : Text
  /-- The inside of each marker and the text behind it. -/
  markers : List (Text × Text)

namespace Printout

/-- A marker around a text. -/
def printMarker (inner : Text) : Text := Marker.opening ++ inner ++ Marker.closing

/-- A text, then each marker with the text behind it. -/
def printBody : Text → List (Text × Text) → Text
  | first, [] => first
  | first, (inner, after) :: rest => first ++ printMarker inner ++ printBody after rest

/-- The marker around a text, printed at offset `start`. -/
def markerAt (start : Nat) (inner : Text) : Expression where
  raw := Text.trim inner
  start := start
  stop := start + (printMarker inner).length
  text := printMarker inner

/-- The markers of a body printed at offset `pos`. -/
def markersAt : Nat → Text → List (Text × Text) → List Expression
  | _, _, [] => []
  | pos, first, (inner, after) :: rest =>
      let e := markerAt (pos + first.length) inner
      e :: markersAt e.stop after rest

/-- The texts of the body, from the first to the last. -/
def texts (p : Printout) : List Text := p.first :: p.markers.map (·.2)

def body (p : Printout) : Text := printBody p.first p.markers

/-- The printed source. -/
def source (p : Printout) : Text :=
  match p.block with
  | some (blanks, inner) => blanks ++ printMarker inner ++ p.body
  | none => p.body

/-- The template that was printed. -/
def template (p : Printout) : Template where
  declarations := match p.block with
    | some (_, inner) => Text.trim inner
    | none => []
  body := p.body
  expressions := markersAt 0 p.first p.markers

/-- What the parts of a printout must not do: hold or complete a brace that they were not printed
    with, or stand where a block would be looked for. -/
structure WellFormed (p : Printout) : Prop where
  text : ∀ t ∈ p.texts, ¬ Marker.opening <:+: t
  before : ∀ t ∈ p.texts.dropLast, t.getLast? ≠ some '{'
  inner : ∀ m ∈ p.markers, Marker.Balanced m.1
  block : ∀ blanks inner, p.block = some (blanks, inner) →
    (∀ c ∈ blanks, Text.isBlank c) ∧ Marker.Balanced inner
  noBlock : p.block = none → p.markers ≠ [] → ∃ c ∈ p.first, Text.isBlank c = false

end Printout

/-! ## Texts without markers -/

/-- No opening brace begins inside a text that has none and does not end in half of one. -/
theorem not_opening_prefix_drop_append {t : Text} (hin : ¬ Marker.opening <:+: t)
    (hlast : t.getLast? ≠ some '{') (more : Text) {i : Nat} (hi : i < t.length) :
    ¬ Marker.opening <+: (t ++ more).drop i := by
  rw [List.drop_append_of_le_length (by omega)]
  intro hpre
  have hend : (t.drop i).getLast? = t.getLast? := by
    rw [List.getLast?_drop, if_neg (by omega)]
  match hdrop : t.drop i with
  | [] => exact absurd (List.drop_eq_nil_iff.1 hdrop) (by omega)
  | [c] =>
      rw [hdrop] at hpre hend
      obtain ⟨rfl, -⟩ := List.cons_prefix_cons.1 hpre
      exact hlast hend.symm
  | c :: d :: rest =>
      rw [hdrop] at hpre
      obtain ⟨rfl, hpre'⟩ := List.cons_prefix_cons.1 hpre
      obtain ⟨rfl, -⟩ := List.cons_prefix_cons.1 hpre'
      have hstands : Marker.opening <+: t.drop i := by
        rw [hdrop]
        exact List.prefix_append ['{', '{'] rest
      exact hin (hstands.isInfix.trans (List.drop_suffix i t).isInfix)

/-- A text without opening braces at the end of a body has no markers. -/
theorem markers_nil_of_text (before : Text) {t : Text} (hin : ¬ Marker.opening <:+: t) :
    Markers (before ++ t) before.length [] := by
  refine .none fun i hi hpre => hin ?_
  rw [List.drop_append, List.drop_eq_nil_of_le (by omega), List.nil_append] at hpre
  exact hpre.isInfix.trans (List.drop_suffix _ t).isInfix

/-! ## Printed bodies -/

theorem length_printMarker (inner : Text) :
    (Printout.printMarker inner).length = inner.length + 4 := by
  simp [Printout.printMarker, Marker.opening, Marker.closing]

/-- A printed marker is read as it was printed. -/
theorem expressionAt_printed (before inner after : Text) :
    expressionAt (before ++ (Marker.opening ++ (inner ++ (Marker.closing ++ after))))
        before.length (before.length + 2 + inner.length) =
      Printout.markerAt before.length inner := by
  have hlen : before.length + (Printout.printMarker inner).length =
      before.length + 2 + inner.length + 2 := by
    rw [length_printMarker]
    omega
  have hraw : Text.slice (before ++ (Marker.opening ++ (inner ++ (Marker.closing ++ after))))
      (before.length + 2) (before.length + 2 + inner.length) = inner := by
    have hmiddle := Text.slice_middle (before ++ Marker.opening) inner (Marker.closing ++ after)
    rw [List.length_append, List.append_assoc] at hmiddle
    exact hmiddle
  have htext : Text.slice (before ++ (Marker.opening ++ (inner ++ (Marker.closing ++ after))))
      before.length (before.length + 2 + inner.length + 2) = Printout.printMarker inner := by
    rw [← hlen]
    simpa [Printout.printMarker] using Text.slice_middle before (Printout.printMarker inner) after
  simp only [expressionAt, Printout.markerAt, hraw, htext, hlen]

/-- One more printed marker: the search passes over the text before it, and the scan ends where it
    was printed to end. -/
theorem markers_printMarker {before first inner after : Text} {es : List Expression}
    (hin : ¬ Marker.opening <:+: first) (hend : first.getLast? ≠ some '{')
    (hinner : Marker.Balanced inner)
    (hrest : Markers (before ++ first ++ Printout.printMarker inner ++ after)
      (before ++ first ++ Printout.printMarker inner).length es) :
    Markers (before ++ (first ++ Printout.printMarker inner ++ after)) before.length
      (Printout.markerAt (before.length + first.length) inner :: es) := by
  have hbody : before ++ (first ++ Printout.printMarker inner ++ after) =
      before ++ first ++ (Marker.opening ++ (inner ++ (Marker.closing ++ after))) := by
    simp [Printout.printMarker]
  rw [← List.length_append, ← expressionAt_printed (before ++ first) inner after, hbody]
  refine .marker ?_ ?_ ?_ (Marker.close?_printed hinner (before ++ first) after) ?_
  · rw [List.length_append]
    omega
  · rw [List.drop_left]
    exact List.prefix_append _ _
  · intro i hpos hi
    rw [List.length_append] at hi
    rw [List.append_assoc, List.drop_append, List.drop_eq_nil_of_le (by omega), List.nil_append]
    exact not_opening_prefix_drop_append hin hend _ (by omega)
  · convert hrest using 1
    · simp [Printout.printMarker]
    · simp only [List.length_append, length_printMarker]
      omega

/-- The markers of a printed body are the printed ones, whatever stands before it. -/
theorem markers_printBody (before first : Text) (markers : List (Text × Text))
    (htext : ∀ t ∈ first :: markers.map (·.2), ¬ Marker.opening <:+: t)
    (hbefore : ∀ t ∈ (first :: markers.map (·.2)).dropLast, t.getLast? ≠ some '{')
    (hinner : ∀ m ∈ markers, Marker.Balanced m.1) :
    Markers (before ++ Printout.printBody first markers) before.length
      (Printout.markersAt before.length first markers) := by
  induction markers generalizing before first with
  | nil => exact markers_nil_of_text before (htext first (List.mem_cons_self ..))
  | cons m rest ih =>
      obtain ⟨inner, after⟩ := m
      have hlater := ih (before ++ first ++ Printout.printMarker inner) after
        (fun t ht => htext t (List.mem_cons_of_mem _ ht))
        (fun t ht => hbefore t (List.mem_cons_of_mem _ ht))
        (fun m hm => hinner m (List.mem_cons_of_mem _ hm))
      have hmarker := markers_printMarker (htext first (List.mem_cons_self ..))
        (hbefore first (List.mem_cons_self ..)) (hinner _ (List.mem_cons_self ..)) hlater
      simpa only [Printout.printBody, Printout.markersAt, Printout.markerAt, List.length_append,
        Nat.add_assoc] using hmarker

/-! ## Printed sources -/

/-- Blanks before a brace are all that trimming takes away. -/
theorem trimStart_printed {blanks : Text} (hblank : ∀ c ∈ blanks, Text.isBlank c) (inner body : Text) :
    Text.trimStart (blanks ++ (Printout.printMarker inner ++ body)) =
      Printout.printMarker inner ++ body := by
  rw [Text.trimStart, List.dropWhile_append_of_pos hblank]
  rfl

/-- A printed block is read as a block. -/
theorem split_printed {blanks inner : Text} (hblank : ∀ c ∈ blanks, Text.isBlank c)
    (hinner : Marker.Balanced inner) (body : Text) :
    split (blanks ++ (Printout.printMarker inner ++ body)) = .ok (Text.trim inner, body) := by
  have hassoc : Printout.printMarker inner ++ body =
      Marker.opening ++ (inner ++ (Marker.closing ++ body)) := by
    simp [Printout.printMarker]
  rw [split_eq_ok_iff, trimStart_printed hblank, hassoc]
  refine Or.inr ⟨List.prefix_append _ _, 2 + inner.length, ?_, ?_, ?_⟩
  · exact Marker.close?_printed hinner [] body
  · exact congrArg Text.trim (Text.slice_middle Marker.opening inner (Marker.closing ++ body)).symm
  · rw [← hassoc, List.drop_left']
    rw [length_printMarker]
    omega

/-- A body is read without a block if its first text has more than blanks. -/
theorem split_unprinted {first more : Text} (hin : ¬ Marker.opening <:+: first)
    (hend : first.getLast? ≠ some '{') (hblank : ∃ c ∈ first, Text.isBlank c = false) :
    split (first ++ more) = .ok ([], first ++ more) := by
  have hne : Text.trimStart first ≠ [] := by
    obtain ⟨c, hc, hblank⟩ := hblank
    intro hnil
    have hall := List.dropWhile_eq_nil_iff.1 hnil c hc
    rw [hblank] at hall
    exact absurd hall (by simp)
  have hsuffix : Text.trimStart first <:+ first := List.dropWhile_suffix _
  have hlast : (Text.trimStart first).getLast? = first.getLast? := by
    obtain ⟨dropped, hdropped⟩ := hsuffix
    conv_rhs => rw [← hdropped]
    rw [List.getLast?_append_of_ne_nil _ hne]
  have htrim : Text.trimStart (first ++ more) = Text.trimStart first ++ more := by
    rw [Text.trimStart, List.dropWhile_append]
    exact if_neg (by simpa [Text.trimStart] using hne)
  rw [split_eq_ok_iff, htrim]
  refine Or.inl ⟨?_, rfl, rfl⟩
  exact not_opening_prefix_drop_append (fun h => hin (h.trans hsuffix.isInfix))
    (hlast ▸ hend) more (List.length_pos_iff.2 hne)

theorem split_source {p : Printout} (h : p.WellFormed) :
    split p.source = .ok (p.template.declarations, p.body) := by
  cases hblock : p.block with
  | some block =>
      obtain ⟨blanks, inner⟩ := block
      obtain ⟨hblank, hinner⟩ := h.block blanks inner hblock
      simp only [Printout.source, Printout.template, hblock, List.append_assoc]
      exact split_printed hblank hinner p.body
  | none =>
      simp only [Printout.source, Printout.template, hblock]
      have hin : ¬ Marker.opening <:+: p.first := h.text p.first (List.mem_cons_self ..)
      cases hmarkers : p.markers with
      | nil =>
          -- The body is one text, and an opening brace after its blanks would stand in it.
          rw [Printout.body, hmarkers, Printout.printBody, split_eq_ok_iff]
          refine Or.inl ⟨fun hpre => hin ?_, rfl, rfl⟩
          exact hpre.isInfix.trans (List.dropWhile_suffix _).isInfix
      | cons m rest =>
          have hend : p.first.getLast? ≠ some '{' :=
            h.before p.first (by simp [Printout.texts, hmarkers])
          have hbody : ∃ more, p.body = p.first ++ more := by
            rw [Printout.body, hmarkers]
            exact ⟨_, List.append_assoc ..⟩
          obtain ⟨more, hmore⟩ := hbody
          rw [hmore]
          exact split_unprinted hin hend (h.noBlock hblock (by simp [hmarkers]))

/-- **Parsing undoes printing.** The source of a well-formed printout parses to the template that
    was printed. -/
theorem parse_source_printout {p : Printout} (h : p.WellFormed) : parse p.source = .ok p.template := by
  rw [parse_eq_ok_iff]
  exact ⟨split_source h, markers_printBody [] p.first p.markers h.text h.before h.inner⟩

/-- A marker inside, around a literal that holds half of one. -/
def Printout.knot : Text :=
  "a" ++ Marker.opening ++ "'\\'" ++ Marker.closing ++ "'" ++ Marker.closing

theorem balanced_knot : Marker.Balanced Printout.knot := by
  have htokens : Marker.tokens Printout.knot =
      [.single 'a', .opening, .literal ("'\\'" ++ Marker.closing ++ "'") true, .closing] := by
    decide +kernel
  refine ⟨?_, ?_, ?_⟩ <;> rw [htokens]
  · decide
  · exact .single 'a' (.marker (.literal _ true .nil) .nil)
  · decide

/-- The texts of a printout may hold single braces, closing braces and, at the end, an open one. -/
theorem parse_source_knots :
    let p : Printout := ⟨some (" \n", Printout.knot), ['}', '{', ' '],
      [(Printout.knot, Marker.closing), ([], ['{'])]⟩
    p.WellFormed ∧ parse p.source = .ok p.template := by
  intro p
  have h : p.WellFormed := by
    refine ⟨by decide, by decide, ?_, ?_, by simp [p]⟩
    · simp only [p, List.forall_mem_cons]
      exact ⟨balanced_knot, Marker.balanced_nil, by simp⟩
    · rintro blanks inner ⟨⟩
      exact ⟨List.all_eq_true.1 (by decide), balanced_knot⟩
  exact ⟨h, parse_source_printout h⟩

end Template
end PageLoom
