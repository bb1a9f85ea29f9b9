import Mathlib.Data.List.TakeWhile
import PageLoom.Proofs.Template.Markers

set_option autoImplicit false

/-! # Parsing loses nothing

A parsed template is its source, taken apart: blanks, the declarations block and the body, and in
the body the markers and the gaps between them, each where it stood and no opening brace left
outside. -/

namespace PageLoom
namespace Template

/-- A source that begins with a declarations block: blanks, the braces around `inner`, which are the
    ones that the scan pairs, and the body behind them. -/
structure Block (source body blanks inner : Text) : Prop where
  source_eq : source = blanks ++ (Marker.opening ++ inner ++ Marker.closing ++ body)
  blank : ∀ c ∈ blanks, Text.isBlank c
  closed : Marker.close? (Marker.opening ++ inner ++ Marker.closing ++ body) 2 =
    some (inner.length + 2)

/-- The parts of a template are the parts of a source. -/
structure Decomposes (source : Text) (t : Template) : Prop where
  /-- Without a block the body is the source. -/
  block : (¬ Marker.opening <+: Text.trimStart source ∧ t.declarations = [] ∧ t.body = source) ∨
    ∃ blanks inner, Block source t.body blanks inner ∧ t.declarations = Text.trim inner
  /-- A marker ends before the next begins. -/
  ordered : t.expressions.Pairwise fun e f => e.stop ≤ f.start
  span : ∀ e ∈ t.expressions, e.start + 4 ≤ e.stop ∧ e.stop ≤ t.body.length
  text : ∀ e ∈ t.expressions, e.text = Text.slice t.body e.start e.stop ∧
    Marker.opening <+: e.text ∧ Marker.closing <:+ e.text
  raw : ∀ e ∈ t.expressions, e.raw = Text.trim (Text.slice t.body (e.start + 2) (e.stop - 2))
  closed : ∀ e ∈ t.expressions, Marker.close? t.body (e.start + 2) = some (e.stop - 2)
  /-- An opening brace stands in one of the markers. -/
  covered : ∀ i, Marker.opening <+: t.body.drop i → ∃ e ∈ t.expressions, e.start ≤ i ∧ i < e.stop
  /-- The gaps with the markers between them are the body. -/
  rejoined : weave t.gaps (t.expressions.map (·.text)) = t.body

/-- An opening brace as the first thing in a source begins a block, if it is closed. -/
theorem block_of_close? {source : Text} {close : Nat}
    (hopen : Marker.opening <+: Text.trimStart source)
    (hclose : Marker.close? (Text.trimStart source) 2 = some close) :
    Block source ((Text.trimStart source).drop (close + 2)) (source.takeWhile Text.isBlank)
      (Text.slice (Text.trimStart source) 2 close) := by
  have hblock := @drop_eq_of_close? (Text.trimStart source) 0 close hopen hclose
  rw [List.drop_zero] at hblock
  have hlen : (Text.slice (Text.trimStart source) 2 close).length + 2 = close := by
    have hspan := @span_of_close? (Text.trimStart source) 0 close hclose
    rw [Text.length_slice]
    omega
  refine ⟨?_, fun c hc => List.mem_takeWhile_imp hc, ?_⟩
  · conv_lhs => rw [← Text.trimStart_append_dropped source]
    exact congrArg (source.takeWhile Text.isBlank ++ ·) hblock
  · rw [hlen, ← hclose]
    exact congrArg (Marker.close? · 2) hblock.symm

theorem block_of_split {source declarations body : Text}
    (h : split source = .ok (declarations, body)) :
    (¬ Marker.opening <+: Text.trimStart source ∧ declarations = [] ∧ body = source) ∨
      ∃ blanks inner, Block source body blanks inner ∧ declarations = Text.trim inner := by
  rcases (split_eq_ok_iff source declarations body).1 h with hnone | ⟨hopen, close, hclose, rfl, rfl⟩
  · exact Or.inl hnone
  · exact Or.inr ⟨_, _, block_of_close? hopen hclose, rfl⟩

/-- **Parsing loses nothing.** A source that parses is taken apart into its template. -/
theorem decomposes_of_parse {source : Text} {t : Template} (h : parse source = .ok t) :
    Decomposes source t := by
  obtain ⟨hsplit, hmarkers⟩ := (parse_eq_ok_iff source t).1 h
  refine ⟨block_of_split hsplit, hmarkers.pairwise, hmarkers.spaced.span, fun e he => ?_,
    fun e he => ?_, fun e he => ?_, fun i => hmarkers.covers i (Nat.zero_le i),
    weave_gapsFrom hmarkers⟩
  all_goals obtain ⟨close, hopen, hclose, heq⟩ := hmarkers.exists_close e he
  · rw [heq]
    refine ⟨rfl, ?_, ?_⟩
    · rw [text_eq_of_close? hopen hclose, List.append_assoc]
      exact List.prefix_append _ _
    · rw [text_eq_of_close? hopen hclose]
      exact List.suffix_append _ _
  · rw [heq]
    rfl
  · rw [heq]
    exact hclose

/-- A source with blanks and a block whose literal holds braces, and with markers that are
    neighbours, that hold each other and that open with three braces. -/
def entangled : Text :=
  " \n" ++ Marker.opening ++ " let a = '" ++ Marker.closing ++ "' " ++ Marker.closing ++ "<p>" ++
    Marker.opening ++ "a" ++ Marker.closing ++ Marker.opening ++ Marker.opening ++ "b" ++
    Marker.closing ++ Marker.closing ++ Marker.opening ++ ['{'] ++ "c" ++ Marker.closing ++ ['}']

theorem decomposes_entangled : ∃ t, parse entangled = .ok t ∧
    t.expressions.map (fun e => (e.start, e.stop)) = [(3, 8), (8, 17), (17, 23)] ∧
    Decomposes entangled t :=
  ⟨_, by rfl, by rfl, decomposes_of_parse (by rfl)⟩

end Template
end PageLoom
