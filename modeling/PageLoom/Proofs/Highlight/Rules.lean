import PageLoom.Highlight.Markup
import PageLoom.Proofs.Highlight.Tiles

set_option autoImplicit false

/-! # Lexers of rules lose nothing

A lexer of rules takes what its rule cuts off the front and goes on behind it; where no rule fits it
takes one character, and where it has cut too often at one place it takes the rest. Whatever the
rule, its lexemes tile the text, if the lexers to which the rule hands pieces lose nothing
(`lossless_lexerOf`). The rules of script hand pieces to no other lexer, those of markup hand them
to the lexer of script. -/

namespace PageLoom
namespace Highlight

variable {text : Text}

/-! ## Cutting by a rule -/

theorem pieceLexemes_nil (offset : Nat) (pieces : List (Lexer Tint × Nat)) :
    pieceLexemes offset pieces [] = [] := by
  induction pieces generalizing offset with
  | nil => rfl
  | cons p pieces ih => simp [pieceLexemes, lexemesAt, ih]

/-- A cut whose pieces go to lexers that lose nothing. -/
def Cut.Lossless {σ : Type} (cut : Cut σ) : Prop := ∀ p ∈ cut.pieces, p.1.Lossless

/-- A cut that may not be made, and loses nothing if it is. -/
def MayCut {σ : Type} (cut? : Option (Cut σ)) : Prop := ∀ cut, cut? = some cut → cut.Lossless

/-- A rule all of whose cuts lose nothing. -/
def CutRule.Lossless {σ : Type} (rule : CutRule σ) : Prop :=
  ∀ states before t, MayCut (rule states before t)

/-- The pieces of a cut tile what it takes off the front, which is at most what is there. -/
theorem tiles_pieceLexemes {pieces : List (Lexer Tint × Nat)} (h : ∀ p ∈ pieces, p.1.Lossless)
    (offset : Nat) {rest : Text} (hrest : text.drop offset = rest) :
    Tiles text offset (pieceLexemes offset pieces rest)
      (offset + min (pieces.foldr (fun p n => p.2 + n) 0) rest.length) := by
  induction pieces generalizing offset rest with
  | nil =>
      rw [List.foldr_nil, Nat.zero_min]
      exact .nil offset
  | cons p pieces ih =>
      obtain ⟨lexer, n⟩ := p
      rw [List.forall_mem_cons] at h
      have hfirst : Tiles text offset (lexemesAt lexer offset (rest.take n))
          (offset + (rest.take n).length) :=
        h.1.tiles_lexemesAt (hrest ▸ List.take_prefix n rest)
      rw [List.length_take] at hfirst
      rw [pieceLexemes, List.foldr_cons]
      by_cases hn : n ≤ rest.length
      · rw [Nat.min_eq_left hn] at hfirst
        have hlater := ih h.2 (offset + n) (by rw [← List.drop_drop, hrest])
        rw [List.length_drop] at hlater
        convert hfirst.trans hlater using 1
        omega
      · -- The text ends in this piece, and nothing is left for the others.
        rw [List.drop_eq_nil_of_le (by omega), pieceLexemes_nil, List.append_nil]
        convert hfirst using 1
        omega

theorem tiles_cutText {σ : Type} {rule : CutRule σ} (hrule : rule.Lossless) (start : List σ)
    (fuel offset : Nat) (states : List σ) (before : Option Char) {rest : Text}
    (hrest : text.drop offset = rest) :
    Tiles text offset (cutText rule start fuel offset states before rest)
      (offset + rest.length) := by
  fun_induction cutText rule start fuel offset states before rest with
  | case1 _ offset => exact .nil offset
  | case2 offset _ _ rest =>
      exact Tiles.single (l := ⟨offset, Tint.wrong, rest⟩) (hrest ▸ List.prefix_refl rest)
  | case3 fuel offset states before c rest cut hcut n ih =>
      have hpieces := tiles_pieceLexemes (hrule _ _ _ _ hcut) offset hrest
      have hlater := ih (by rw [← List.drop_drop, hrest])
      have hn : n = min (cut.pieces.foldr (fun p n => p.2 + n) 0) (c :: rest).length := rfl
      rw [← hn] at hpieces
      convert hpieces.trans hlater using 1
      rw [List.length_drop]
      omega
  | case4 fuel offset states before c rest _ tint states' _ ih =>
      have hstands : [c] <+: text.drop offset := hrest ▸ List.prefix_append [c] rest
      have hlater := ih (by rw [← List.drop_drop, hrest, List.drop_one, List.tail_cons])
      rw [List.length_cons, Nat.add_comm rest.length, ← Nat.add_assoc]
      exact Tiles.cons (l := ⟨offset, tint, [c]⟩) hstands hlater

/-- A lexer of rules loses nothing, wherever it starts. -/
theorem lossless_lexerOf {σ : Type} {rule : CutRule σ} (hrule : rule.Lossless) (start : List σ) :
    (lexerOf rule start).Lossless := by
  intro text
  have htiles := tiles_cutText hrule start (4 * (text.length + 1)) 0 start none
    (List.drop_zero (l := text))
  rw [Nat.zero_add] at htiles
  exact consecutive_iff.2 htiles

/-! ## The ways of making cuts -/

theorem Cut.lossless_one {σ : Type} (tint : Tint) (n : Nat) (states : List σ) :
    (Cut.one tint n states).Lossless := by
  simpa [Cut.Lossless, Cut.one] using lossless_whole tint

theorem MayCut.none {σ : Type} : MayCut (none : Option (Cut σ)) := by
  rintro cut ⟨⟩

theorem MayCut.some {σ : Type} {cut : Cut σ} (h : cut.Lossless) : MayCut (some cut) := by
  rintro _ ⟨rfl⟩
  exact h

theorem MayCut.orElse {σ : Type} {a b : Option (Cut σ)} (ha : MayCut a) (hb : MayCut b) :
    MayCut (a <|> b) := by
  cases a with
  | none => exact hb
  | some cut => exact ha

theorem MayCut.map {σ α : Type} {f : α → Cut σ} (hf : ∀ x, (f x).Lossless) (x? : Option α) :
    MayCut (x?.map f) := by
  intro cut h
  obtain ⟨x, -, rfl⟩ := Option.map_eq_some_iff.1 h
  exact hf x

theorem MayCut.bind {σ α : Type} {f : α → Option (Cut σ)} (hf : ∀ x, MayCut (f x))
    (x? : Option α) : MayCut (x? >>= f) := by
  intro cut h
  obtain ⟨x, -, hx⟩ := Option.bind_eq_some_iff.1 h
  exact hf x cut hx

theorem MayCut.ite {σ : Type} {a b : Option (Cut σ)} (ha : MayCut a) (hb : MayCut b)
    (p : Prop) [Decidable p] : MayCut (if p then a else b) := by
  split
  · exact ha
  · exact hb

/-! ## Script -/

namespace Script

theorem lossless_rule : CutRule.Lossless rule := by
  intro states before t
  have hone (s : State) (outer : List State) (p : Piece) : (cutOf s outer p).Lossless :=
    Cut.lossless_one p.tint p.length _
  fun_cases rule states before t with
  | case1 | case2 | case4 | case5 => exact .map (hone _ _) _
  | case3 | case6 | case9 => exact .some (Cut.lossless_one _ _ _)
  | case7 => exact .none
  | case8 => exact .some (hone _ _ _)
  | case10 =>
      -- Where no value begins after all, the state is left and nothing is cut.
      exact .some fun _ hp => absurd hp List.not_mem_nil

theorem lossless_lexer : lexer.Lossless := lossless_lexerOf lossless_rule [.root]

end Script

/-! ## Markup -/

namespace Markup

@[simp] theorem lossless_piece (tint : Tint) (n : Nat) : (piece tint n).1.Lossless :=
  lossless_whole tint

theorem lossless_of_closingTag? (nameLength : Text → Nat) (t : Text) :
    ∀ pieces, closingTag? nameLength t = some pieces → ∀ p ∈ pieces, p.1.Lossless := by
  fun_cases closingTag? nameLength t with
  | case1 =>
      rintro _ ⟨rfl⟩
      simp
  | case2 | case3 | case4 => rintro _ ⟨⟩

theorem mayCut_openingTag? (outer : List State) (t : Text) : MayCut (openingTag? outer t) := by
  fun_cases openingTag? outer t with
  | case1 t a rest special =>
      have hspecial (name : Text) (inner : State) : MayCut (special name inner) :=
        .bind (fun n => .some (by simp [Cut.Lossless])) _
      refine (hspecial _ _).orElse ((hspecial _ _).orElse (.bind (fun n => .some ?_) _))
      simp [Cut.Lossless]
  | case2 => exact .none

theorem mayCut_rootCut? (outer : List State) (t : Text) : MayCut (rootCut? outer t) := by
  fun_cases rootCut? outer t with
  | case1 cut =>
      have hcut (tint : Tint) (n? : Option Nat) : MayCut (n?.map (cut tint)) :=
        .map (fun n => Cut.lossless_one tint n _) n?
      refine (hcut _ _).orElse ((hcut _ _).orElse ((hcut _ _).orElse ((hcut _ _).orElse
        ((hcut _ _).orElse ((hcut _ _).orElse ((mayCut_openingTag? outer t).orElse ?_))))))
      intro cut h
      obtain ⟨pieces, hpieces, rfl⟩ := Option.map_eq_some_iff.1 h
      exact lossless_of_closingTag? _ t pieces hpieces

theorem mayCut_tagCut? (outer : List State) (t : Text) : MayCut (tagCut? outer t) := by
  fun_cases tagCut? outer t with
  | case1 =>
      refine MayCut.orElse (.map (fun n => Cut.lossless_one _ n _) _) (.orElse (.bind ?_ _) ?_)
      · intro n
        dsimp only
        split
        · exact .some (by simp [Cut.Lossless])
        · exact .some (Cut.lossless_one _ _ _)
      · exact .ite (.some (Cut.lossless_one _ _ _)) .none _

theorem mayCut_valueCut? (outer : List State) (t : Text) : MayCut (valueCut? outer t) := by
  have hone (n? : Option Nat) : MayCut (n?.map fun n => Cut.one .string n outer) :=
    .map (fun n => Cut.lossless_one _ n _) n?
  exact (hone _).orElse ((hone _).orElse (hone _))

theorem lossless_contentCut (name : Text) {content : Lexer Tint} (hcontent : content.Lossless)
    (self : State) (outer : List State) (t : Text) :
    (contentCut name content self outer t).Lossless := by
  fun_cases contentCut name content self outer t with
  | case1 pieces hpieces => exact lossless_of_closingTag? _ t _ hpieces
  | case2 | case3 | case4 => simpa [Cut.Lossless] using hcontent

theorem lossless_rule : CutRule.Lossless rule := by
  intro states before t
  fun_cases rule states before t with
  | case1 => exact mayCut_rootCut? [] t
  | case2 outer => exact mayCut_rootCut? outer t
  | case3 outer => exact mayCut_tagCut? outer t
  | case4 outer => exact mayCut_valueCut? outer t
  | case5 outer => exact .some (lossless_contentCut _ Script.lossless_lexer _ outer t)
  | case6 outer => exact .some (lossless_contentCut _ (lossless_whole _) _ outer t)

theorem lossless_lexer : lexer.Lossless := lossless_lexerOf lossless_rule [.root]

end Markup

end Highlight
end PageLoom
