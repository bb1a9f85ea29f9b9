import PageLoom.PageError
import PageLoom.Proofs.Text.Pieces
import PageLoom.Proofs.Text.Search

set_option autoImplicit false

/-! # The caret of an error

The excerpt of an error is one line, whatever the text has around the position: line feeds are shown
as spaces, and clipping takes away as many columns in front of the excerpt as the caret moves to the
left. So the caret stands below the character at the position (`pointsAt_context`). -/

namespace PageLoom
namespace PageError

/-- A text shown on one line: a line feed is shown as a space. -/
def oneLine (t : Text) : Text := t.map fun c => if c = '\n' then ' ' else c

@[simp] theorem length_oneLine (t : Text) : (oneLine t).length = t.length :=
  List.length_map _

theorem lineFeed_not_mem_oneLine (t : Text) : '\n' ∉ oneLine t := by
  rw [oneLine, List.mem_map]
  rintro ⟨c, -, hc⟩
  split at hc
  · exact absurd hc (by decide)
  next hne => exact hne hc

/-- A report of two lines that points at the character at `position` of a text, with at most `width`
    characters shown on either side. -/
structure PointsAt (text : Text) (position width : Nat) (report first : Text) (column : Nat) :
    Prop where
  /-- The second line is a caret behind `column` spaces. -/
  lines : Text.splitOn '\n' report = [first, List.replicate column ' ' ++ ['^']]
  /-- The character stands in the column of the caret. -/
  above : first[column]? = text[position]?
  before : first.take column =
    "Context: ..." ++ oneLine (Text.slice text (position - width) position)
  behind : first.drop column = oneLine (Text.slice text position (position + width)) ++ "..."

/-- The excerpt is the same characters of the text on either side, and the caret is moved by those
    on its left. -/
theorem context_eq {fault : PageError} {text : Text} {position : Nat}
    (hkind : fault.kind = .unclosed (some (position : Int)) text) (hlt : position < text.length)
    (width : Nat) :
    fault.context width =
      ("Context: ..." ++ oneLine (Text.slice text (position - width) position)) ++
        (oneLine (Text.slice text position (position + width)) ++ "...") ++
        '\n' :: (List.replicate (min position width + 12) ' ' ++ ['^']) := by
  have hne : text.isEmpty = false := by
    cases text with
    | nil => exact absurd hlt (Nat.not_lt_zero _)
    | cons c rest => rfl
  have hstart : ((position : Int) - width).toNat = position - width := by omega
  have hspaces : ((position : Int) - ((position - width : Nat) : Int) + 3).toNat =
      min position width + 3 := by omega
  have hstop : min (text.length : Int) ((position : Int) + width) =
      ((min text.length (position + width) : Nat) : Int) := by omega
  have hexcerpt : excerpt text (position - width) (min text.length (position + width) : Nat) =
      Text.slice text (position - width) position ++
        Text.slice text position (position + width) := by
    rw [Text.slice_append_slice text (Nat.sub_le position width) (Nat.le_add_right position width),
      excerpt, if_pos (Int.natCast_nonneg _), Int.toNat_natCast, Text.slice, Text.slice,
      Nat.min_comm, ← List.take_take, List.take_length]
  have hdots : ("...\n" : Text) = "..." ++ ['\n'] := rfl
  have hblanks : ("         " : Text) ++ List.replicate (min position width + 3) ' ' =
      List.replicate (min position width + 12) ' ' := by
    rw [show ("         " : Text) = List.replicate 9 ' ' from rfl,
      List.replicate_append_replicate]
    congr 1
    omega
  have hcaret : ("^" : Text) = ['^'] := rfl
  rw [context, hkind]
  simp only [hne, hstart, hstop, hexcerpt, hspaces, Bool.false_eq_true, if_false, hdots, hcaret,
    ← hblanks, oneLine, List.map_append, List.append_assoc, List.cons_append, List.nil_append]

/-- The caret stands below the character at the position, in the only line shown of the text. -/
theorem pointsAt_context {fault : PageError} {text : Text} {position : Nat} {c : Char}
    (hkind : fault.kind = .unclosed (some (position : Int)) text)
    (hchar : text[position]? = some c) (hc : c ≠ '\n') {width : Nat} (hwidth : 1 ≤ width) :
    ∃ first column, PointsAt text position width (fault.context width) first column := by
  obtain ⟨hlt, hat⟩ := List.getElem?_eq_some_iff.1 hchar
  have hcontext := context_eq hkind hlt width
  generalize hbefore : ("Context: ..." : Text) ++
    oneLine (Text.slice text (position - width) position) = before at hcontext
  generalize hbehind : oneLine (Text.slice text position (position + width)) ++ "..." = behind
    at hcontext
  have hlength : before.length = min position width + 12 := by
    rw [← hbefore, List.length_append, length_oneLine, Text.length_slice,
      show ("Context: ..." : Text).length = 12 from rfl]
    omega
  have hhead : behind[0]? = some c := by
    obtain ⟨n, rfl⟩ := Nat.exists_eq_add_of_le' hwidth
    rw [← hbehind, Text.slice_eq_take_drop, Nat.add_sub_cancel_left, List.drop_eq_getElem_cons hlt,
      hat]
    simp [oneLine, hc]
  have hdots : '\n' ∉ ("..." : Text) := by decide
  have hlead : '\n' ∉ ("Context: ..." : Text) := by decide
  refine ⟨before ++ behind, min position width + 12, ?_, ?_, ?_, ?_⟩
  · have hfirst : '\n' ∉ before ++ behind := by
      rw [← hbefore, ← hbehind]
      simp only [List.mem_append, not_or]
      exact ⟨⟨hlead, lineFeed_not_mem_oneLine _⟩, lineFeed_not_mem_oneLine _, hdots⟩
    have hsecond : '\n' ∉ List.replicate (min position width + 12) ' ' ++ ['^'] := by
      simp [List.mem_replicate]
    rw [hcontext, Text.splitOn_append_cons, Text.splitOn_of_not_mem hfirst,
      Text.splitOn_of_not_mem hsecond]
    rfl
  · rw [hchar, ← hlength, List.getElem?_append_right (Nat.le_refl _), Nat.sub_self, hhead]
  · rw [← hlength, List.take_left, hbefore]
  · rw [← hlength, List.drop_left, hbehind]

end PageError
end PageLoom
