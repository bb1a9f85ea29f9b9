import PageLoom.Injection

set_option autoImplicit false

/-! # Injection only inserts

What stands in a page before its tags are put in stands in it afterwards, in two parts, with the
block of tags between them. -/

namespace PageLoom
namespace Injection

/-- What is put into a page: the block, behind a line feed or not, and nothing at all if there is
    neither a tag nor a script that reloads the page. -/
def insertion (stylesheets scripts : List Text) (reload : Option Text) (lineFeed : Text) : Text :=
  if stylesheets.isEmpty && scripts.isEmpty && reload.isNone then []
  else lineFeed ++ block stylesheets scripts reload

/-- Where the page is cut depends on nothing that is put in. -/
theorem inject_eq_insertion (html : Text) : ∃ before lineFeed after, html = before ++ after ∧
    (lineFeed = [] ∨ lineFeed = ['\n']) ∧
    ∀ (stylesheets scripts : List Text) (reload : Option Text),
      inject html stylesheets scripts reload =
        before ++ insertion stylesheets scripts reload lineFeed ++ after := by
  refine ⟨html.take (place html).offset, if (place html).newLine then ['\n'] else [],
    html.drop (place html).offset, (List.take_append_drop ..).symm, ?_, ?_⟩
  · cases (place html).newLine <;> simp
  · intro stylesheets scripts reload
    unfold inject insertion
    by_cases hnone : (stylesheets.isEmpty && scripts.isEmpty && reload.isNone) = true
    · rw [if_pos hnone, if_pos hnone, List.append_nil, List.take_append_drop]
    · rw [if_neg hnone, if_neg hnone]
      rfl

theorem block_eq_nil {stylesheets scripts : List Text} {reload : Option Text}
    (h : (stylesheets.isEmpty && scripts.isEmpty && reload.isNone) = true) :
    block stylesheets scripts reload = [] := by
  simp only [Bool.and_eq_true, List.isEmpty_iff, Option.isNone_iff_eq_none] at h
  obtain ⟨⟨rfl, rfl⟩, rfl⟩ := h
  rfl

/-- The block, on a line of its own or not, is all that is put in. -/
theorem inject_eq_append (html : Text) (stylesheets scripts : List Text) (reload : Option Text) :
    ∃ before lineFeed after, html = before ++ after ∧ (lineFeed = [] ∨ lineFeed = ['\n']) ∧
      inject html stylesheets scripts reload =
        before ++ lineFeed ++ block stylesheets scripts reload ++ after := by
  obtain ⟨before, lineFeed, after, hhtml, hline, hinject⟩ := inject_eq_insertion html
  rw [hinject, insertion]
  by_cases hnone : (stylesheets.isEmpty && scripts.isEmpty && reload.isNone) = true
  · refine ⟨before, [], after, hhtml, Or.inl rfl, ?_⟩
    rw [if_pos hnone, block_eq_nil hnone, List.append_nil, List.append_nil]
  · refine ⟨before, lineFeed, after, hhtml, hline, ?_⟩
    rw [if_neg hnone, List.append_assoc before lineFeed]

end Injection
end PageLoom
