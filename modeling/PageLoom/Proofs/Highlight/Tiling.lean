import PageLoom.Proofs.Highlight.Delimiters
import PageLoom.Proofs.Highlight.Rules

set_option autoImplicit false

/-! # The lexer of templates loses nothing

Between two markers, inside a marker and behind the last one, the lexer of templates hands a piece
of the source to another lexer and moves what comes back; the doubled braces it emits itself. The
pieces and the braces meet, so that its lexemes tile the source if those of the other lexers tile
every text (`tiling_template`), as those of the lexers of markup and script do. -/

namespace PageLoom
namespace Highlight

open Template

variable {κ : Type} {markup script : Lexer κ}

/-- The lexemes of a slice tile the place that it was cut from. -/
theorem Lexer.Lossless.tiles_slice {lexer : Lexer κ} (h : lexer.Lossless) {text : Text}
    {i j : Nat} (hij : i ≤ j) (hj : j ≤ text.length) :
    Tiles text i (lexemesAt lexer i (Text.slice text i j)) j := by
  have hpiece : Text.slice text i j <+: text.drop i := by
    rw [Text.slice_eq_take_drop]
    exact List.take_prefix _ _
  have htiles := h.tiles_lexemesAt hpiece
  rwa [Text.length_slice, Nat.min_eq_left hj, Nat.add_sub_cancel' hij] at htiles

/-- What is left behind the last marker is tiled to the end of the text. -/
theorem Lexer.Lossless.tiles_rest {lexer : Lexer κ} (h : lexer.Lossless) {text : Text} {i : Nat}
    (hi : i ≤ text.length) : Tiles text i (lexemesAt lexer i (text.drop i)) text.length := by
  have htiles := h.tiles_lexemesAt (List.prefix_refl (text.drop i))
  rwa [List.length_drop, Nat.add_sub_cancel' hi] at htiles

/-- Closed markers are tiled from the markup before the first one to the end of the last. -/
theorem tiles_lexemesTo (hmarkup : markup.Lossless) (hscript : script.Lossless) (mark : κ)
    {text : Text} {pos stop : Nat} {es : List Expression} (h : Closed text pos es stop) :
    Tiles text pos (lexemesTo markup script mark text pos es) stop := by
  induction h with
  | nil pos => exact .nil pos
  | @cons pos start close stop es hfind hclose _ ih =>
      obtain ⟨hpos, hopening, -⟩ := (findFrom?_opening_eq_some_iff text pos start).1 hfind
      obtain ⟨hle, hclosing⟩ := Marker.closing_prefix_of_close? hclose
      have hlen := Marker.add_two_le_length_of_close? hclose
      have hgap := hmarkup.tiles_slice hpos (show start ≤ text.length by omega)
      have hinside := hscript.tiles_slice hle (show close ≤ text.length by omega)
      exact hgap.trans (.cons (l := ⟨start, mark, Marker.opening⟩) hopening
        (hinside.trans (.cons (l := ⟨close, mark, Marker.closing⟩) hclosing ih)))

/-- **The lexer of templates tiles its input.** If the lexers of markup and script give consecutive
    lexemes for every text, so does the lexer of templates: the values joined are the text, each
    offset counts the characters before it, no two lexemes overlap and no character is left out. -/
theorem tiling_template (hmarkup : markup.Lossless) (hscript : script.Lossless) (mark : κ)
    (text : Text) : Tiling text (template markup script mark text) := by
  obtain ⟨es, stop, hclosed, hend⟩ := exists_closed text
  rw [template_of_closed markup script mark hclosed hend]
  have hstop := hclosed.stop_le_length (Nat.zero_le text.length)
  exact ((tiles_lexemesTo hmarkup hscript mark hclosed).trans (hmarkup.tiles_rest hstop)).tiling

/-- Markup with a marker that is empty, one that follows it and holds another and a literal with
    braces, and one that never closes. -/
def patchwork : Text :=
  "<p>" ++ Marker.opening ++ Marker.closing ++ Marker.opening ++ " f(" ++ Marker.opening ++ "a" ++
    Marker.closing ++ ") + '" ++ Marker.closing ++ "' " ++ Marker.closing ++ "</p> &amp; " ++
    Marker.opening ++ " b"

theorem tiling_patchwork : Markup.lexer.Lossless ∧ Script.lexer.Lossless ∧
    Tiling patchwork (template Markup.lexer Script.lexer .plain patchwork) :=
  ⟨Markup.lossless_lexer, Script.lossless_lexer,
    tiling_template Markup.lossless_lexer Script.lossless_lexer .plain patchwork⟩

end Highlight
end PageLoom
