import PageLoom.Highlight.Region
import PageLoom.Proofs.Text.Search

set_option autoImplicit false

/-! # Lexemes that tile a text

Lexemes tile a stretch of a text if each stands in the text where the one before it ends, from the
start of the stretch to its end (`Tiles`). Stretches that meet are tiled together (`Tiles.trans`),
and what tiles a piece tiles the place of the piece in a text (`Tiles.within`), so that a lexer
which hands pieces to other lexers is followed piece by piece, without adding up lengths. For a
whole text this is the same as saying that the values joined are the text and that each offset
counts the characters before it (`consecutive_iff`). -/

namespace PageLoom
namespace Highlight

variable {κ : Type}

/-! ## Stretches of a text -/

/-- The lexemes stand in `text` one behind the other, from a position to another. -/
inductive Tiles (text : Text) : Nat → List (Lexeme κ) → Nat → Prop where
  | nil (pos : Nat) : Tiles text pos [] pos
  | cons {l : Lexeme κ} {ls : List (Lexeme κ)} {stop : Nat}
      (hstands : l.value <+: text.drop l.offset)
      (hrest : Tiles text (l.offset + l.value.length) ls stop) : Tiles text l.offset (l :: ls) stop

variable {text : Text} {pos mid stop : Nat} {ls ls' : List (Lexeme κ)}

theorem Tiles.trans (h : Tiles text pos ls mid) (h' : Tiles text mid ls' stop) :
    Tiles text pos (ls ++ ls') stop := by
  induction h with
  | nil => exact h'
  | cons hstands _ ih => exact .cons hstands (ih h')

/-- One lexeme tiles the place where its value stands. -/
theorem Tiles.single {l : Lexeme κ} (hstands : l.value <+: text.drop l.offset) :
    Tiles text l.offset [l] (l.offset + l.value.length) :=
  .cons hstands (.nil _)

/-- The lexeme, seen in a text with `n` characters before those it was found in. -/
def Lexeme.movedBy (n : Nat) (l : Lexeme κ) : Lexeme κ := { l with offset := l.offset + n }

/-- What tiles a piece of a text tiles the text where the piece stands. -/
theorem Tiles.within {piece : Text} {place : Nat} (hpiece : piece <+: text.drop place)
    (h : Tiles piece pos ls stop) :
    Tiles text (pos + place) (ls.map (Lexeme.movedBy place)) (stop + place) := by
  induction h with
  | nil pos => exact .nil _
  | @cons l ls stop hstands _ ih =>
      have hplace : l.value <+: text.drop (l.offset + place) := by
        rw [Nat.add_comm, ← List.drop_drop]
        exact hstands.trans (hpiece.drop l.offset)
      rw [List.map_cons]
      refine Tiles.cons (show (l.movedBy place).value <+: _ from hplace) ?_
      rwa [Nat.add_right_comm] at ih

theorem Tiles.le (h : Tiles text pos ls stop) : pos ≤ stop := by
  induction h with
  | nil => exact Nat.le_refl _
  | cons _ _ ih => omega

/-- The values joined are the stretch. -/
theorem Tiles.flatMap_value (h : Tiles text pos ls stop) :
    ls.flatMap (·.value) = Text.slice text pos stop := by
  induction h with
  | nil pos => simp [Text.slice]
  | @cons l ls stop hstands hrest ih =>
      have hvalue : l.value = Text.slice text l.offset (l.offset + l.value.length) := by
        rw [Text.slice_eq_take_drop, Nat.add_sub_cancel_left]
        exact List.prefix_iff_eq_take.1 hstands
      calc (l :: ls).flatMap (·.value) = l.value ++ ls.flatMap (·.value) := List.flatMap_cons ..
        _ = Text.slice text l.offset (l.offset + l.value.length) ++
              Text.slice text (l.offset + l.value.length) stop := by rw [ih, ← hvalue]
        _ = Text.slice text l.offset stop :=
              Text.slice_append_slice text (Nat.le_add_right ..) hrest.le

/-- Each lexeme stands in the stretch. -/
theorem Tiles.bounds (h : Tiles text pos ls stop) : ∀ l ∈ ls,
    l.value <+: text.drop l.offset ∧ pos ≤ l.offset ∧ l.offset + l.value.length ≤ stop := by
  induction h with
  | nil => simp
  | @cons l ls stop hstands hrest ih =>
      rw [List.forall_mem_cons]
      refine ⟨⟨hstands, Nat.le_refl _, hrest.le⟩, fun m hm => ?_⟩
      obtain ⟨hstands', hpos, hstop⟩ := ih m hm
      exact ⟨hstands', by omega, hstop⟩

/-- No two lexemes overlap. -/
theorem Tiles.pairwise (h : Tiles text pos ls stop) :
    ls.Pairwise fun l m => l.offset + l.value.length ≤ m.offset := by
  induction h with
  | nil => exact .nil
  | cons _ hrest ih => exact .cons (fun m hm => (hrest.bounds m hm).2.1) ih

/-- No character of the stretch is left out. -/
theorem Tiles.covers (h : Tiles text pos ls stop) : ∀ i, pos ≤ i → i < stop →
    ∃ l ∈ ls, l.offset ≤ i ∧ i < l.offset + l.value.length := by
  induction h with
  | nil =>
      intro i hpos hstop
      omega
  | @cons l ls stop _ _ ih =>
      intro i hpos hstop
      by_cases hfirst : i < l.offset + l.value.length
      · exact ⟨l, List.mem_cons_self .., hpos, hfirst⟩
      · obtain ⟨m, hm, hspan⟩ := ih i (by omega) hstop
        exact ⟨m, List.mem_cons_of_mem _ hm, hspan⟩

/-- A lexeme is as far from the start of the stretch as the values before it are long. -/
theorem Tiles.offset_eq {l : Lexeme κ} {before after : List (Lexeme κ)}
    (h : Tiles text pos (before ++ l :: after) stop) :
    l.offset = pos + (before.flatMap (·.value)).length := by
  induction before generalizing pos with
  | nil =>
      cases h
      rfl
  | cons b before ih =>
      cases h with
      | cons _ hrest => rw [ih hrest, List.flatMap_cons, List.length_append, Nat.add_assoc]

/-! ## Whole texts -/

/-- The values joined are the text, and each offset counts the characters of the values before. -/
structure Consecutive (text : Text) (ls : List (Lexeme κ)) : Prop where
  joined : ls.flatMap (·.value) = text
  placed : ∀ before l after, ls = before ++ l :: after →
    l.offset = (before.flatMap (·.value)).length

/-- Consecutive lexemes, and what that means for the text: each lexeme stands in it, no two of them
    overlap and no character is left out. -/
structure Tiling (text : Text) (ls : List (Lexeme κ)) : Prop extends Consecutive text ls where
  stands : ∀ l ∈ ls, l.value <+: text.drop l.offset
  apart : ls.Pairwise fun l m => l.offset + l.value.length ≤ m.offset
  covered : ∀ i < text.length, ∃ l ∈ ls, l.offset ≤ i ∧ i < l.offset + l.value.length

theorem Tiles.tiling (h : Tiles text 0 ls text.length) : Tiling text ls where
  joined := by rw [h.flatMap_value, Text.slice, List.take_length, List.drop_zero]
  placed before l after heq := by
    subst heq
    rw [h.offset_eq, Nat.zero_add]
  stands l hl := (h.bounds l hl).1
  apart := h.pairwise
  covered i hi := h.covers i (Nat.zero_le i) hi

/-- From any of them on, consecutive lexemes tile the rest of the text. -/
theorem Consecutive.tiles_from {before : List (Lexeme κ)} (h : Consecutive text (before ++ ls)) :
    Tiles text (before.flatMap (·.value)).length ls text.length := by
  induction ls generalizing before with
  | nil =>
      have hjoined := h.joined
      rw [List.append_nil] at hjoined
      rw [hjoined]
      exact .nil _
  | cons l ls ih =>
      have hrest : Tiles text ((before ++ [l]).flatMap (·.value)).length ls text.length :=
        ih (by rwa [List.append_assoc])
      have hplaced := h.placed before l ls rfl
      have hstands : l.value <+: text.drop l.offset := by
        rw [hplaced, ← h.joined, List.flatMap_append, List.drop_left, List.flatMap_cons]
        exact List.prefix_append _ _
      rw [List.flatMap_append, List.length_append, ← hplaced, List.flatMap_singleton] at hrest
      rw [← hplaced]
      exact .cons hstands hrest

theorem Consecutive.tiles (h : Consecutive text ls) : Tiles text 0 ls text.length :=
  @Consecutive.tiles_from _ _ _ [] h

theorem consecutive_iff : Consecutive text ls ↔ Tiles text 0 ls text.length :=
  ⟨Consecutive.tiles, fun h => h.tiling.toConsecutive⟩

/-! ## Lexers of pieces -/

/-- A lexer that tiles every text. -/
def Lexer.Lossless (lexer : Lexer κ) : Prop := ∀ text, Consecutive text (lexer text)

/-- The lexemes of a piece tile the place where it stands. -/
theorem Lexer.Lossless.tiles_lexemesAt {lexer : Lexer κ} (h : lexer.Lossless) {piece : Text}
    {place : Nat} (hpiece : piece <+: text.drop place) :
    Tiles text place (lexemesAt lexer place piece) (place + piece.length) := by
  unfold lexemesAt
  split
  next hempty =>
      rw [List.isEmpty_iff.1 hempty]
      exact .nil place
  next =>
      have hmoved := (h piece).tiles.within hpiece
      rwa [Nat.zero_add, Nat.add_comm] at hmoved

/-- A lexer that takes its whole text as one lexeme loses nothing. -/
theorem lossless_whole (kind : κ) : (whole kind).Lossless := by
  intro text
  have hsingle := Tiles.single (l := ⟨0, kind, text⟩) (List.prefix_refl text)
  rw [Nat.zero_add] at hsingle
  exact consecutive_iff.2 hsingle

end Highlight
end PageLoom
