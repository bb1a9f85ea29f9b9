import Mathlib.Order.Bounds.Defs
import PageLoom.Injection
import PageLoom.Page.Compile
import PageLoom.Proofs.Text.Search

set_option autoImplicit false

/-! # Where tags are put in

The place of the tags, said by what stands in the page itself: the first `</head>`, or the end of
the first `<body …>` tag, or the start (`Lawful`). Marks are searched in a copy of the page in lower
case, which has the length of the page because only ASCII letters change, so that every offset found
is one of the page (`findMark?_eq_some_iff`). -/

namespace PageLoom
namespace Injection

variable {html mark : Text}

/-! ## Marks in a page -/

/-- The mark stands at the offset, in upper or lower case. -/
def Stands (mark html : Text) (i : Nat) : Prop :=
  ∃ piece, piece <+: html.drop i ∧ Text.asciiLower piece = Text.asciiLower mark

theorem stands_iff (hmark : Text.asciiLower mark = mark) (html : Text) (i : Nat) :
    Stands mark html i ↔ mark <+: (Text.asciiLower html).drop i := by
  rw [Text.asciiLower, ← List.map_drop, List.prefix_map_iff, Stands, hmark]
  simp only [Text.asciiLower, eq_comm]

theorem Stands.lt_length {i : Nat} (hmark : Text.asciiLower mark = mark) (hne : mark ≠ [])
    (h : Stands mark html i) : i < html.length := by
  have hlt := Text.lt_length_of_prefix_drop ((stands_iff hmark html i).1 h) hne
  rwa [Text.asciiLower, List.length_map] at hlt

/-- The least of some offsets is one before which there is none. -/
theorem isLeast_iff {P : Nat → Prop} (i : Nat) :
    IsLeast {j | P j} i ↔ P i ∧ ∀ j < i, ¬ P j :=
  ⟨fun ⟨hi, hleast⟩ => ⟨hi, fun _ hlt hj => absurd (hleast hj) (Nat.not_le_of_lt hlt)⟩,
    fun ⟨hi, hfirst⟩ => ⟨hi, fun j hj => Nat.le_of_not_lt fun hlt => hfirst j hlt hj⟩⟩

/-- A mark is found where it stands first. -/
theorem findMark?_eq_some_iff (hmark : Text.asciiLower mark = mark) (hne : mark ≠ []) (html : Text)
    (i : Nat) : findMark? mark html = some i ↔ IsLeast {j | Stands mark html j} i := by
  rw [findMark?, ← Text.findFrom?_zero, Text.findFrom?_eq_some_iff_of_ne_nil hne, isLeast_iff]
  simp [stands_iff hmark]

theorem findMark?_eq_none_iff (hmark : Text.asciiLower mark = mark) (hne : mark ≠ [])
    (html : Text) : findMark? mark html = none ↔ ∀ i, ¬ Stands mark html i := by
  rw [findMark?, ← Text.findFrom?_zero, Text.findFrom?_eq_none_iff_of_ne_nil hne]
  simp [stands_iff hmark]

/-- The end of a tag is the first `>` from its beginning on. -/
theorem findFrom?_tagEnd_eq_some_iff (html : Text) (start i : Nat) :
    Text.findFrom? ['>'] html start = some i ↔
      IsLeast {j | start ≤ j ∧ html[j]? = some '>'} i := by
  rw [Text.findFrom?_eq_some_iff_of_ne_nil (List.cons_ne_nil _ _), isLeast_iff]
  simp only [Text.singleton_prefix_drop_iff, and_assoc]
  refine and_congr_right fun _ => and_congr_right fun _ => ?_
  constructor
  · intro hfirst j hlt ⟨hj, hat⟩
    exact hfirst j hj hlt hat
  · intro hfirst j hj hlt hat
    exact hfirst j hlt ⟨hj, hat⟩

theorem findFrom?_tagEnd_eq_none_iff (html : Text) (start : Nat) :
    Text.findFrom? ['>'] html start = none ↔ ∀ j, start ≤ j → html[j]? ≠ some '>' := by
  rw [Text.findFrom?_eq_none_iff_of_ne_nil (List.cons_ne_nil _ _)]
  simp only [Text.singleton_prefix_drop_iff, ne_eq]

/-! ## The place -/

/-- A `<body` stands at the offset, and its tag ends. -/
def OpensBody (html : Text) (i : Nat) : Prop :=
  Stands "<body" html i ∧ ∃ j, i ≤ j ∧ html[j]? = some '>'

/-- Where tags may be put into a page: what of the page stands before them, and the line feed
    between. -/
inductive Lawful (html : Text) : Text → Text → Prop where
  /-- Before the first `</head>`. -/
  | head {before : Text} (hhead : IsLeast {i | Stands "</head>" html i} before.length) :
      Lawful html before []
  /-- On a line of their own, behind the end of the first `<body …>` tag that ends. -/
  | body {before : Text} {tag tagEnd : Nat} (hhead : ∀ i, ¬ Stands "</head>" html i)
      (htag : IsLeast {i | OpensBody html i} tag)
      (hend : IsLeast {j | tag ≤ j ∧ html[j]? = some '>'} tagEnd)
      (hbefore : before.length = tagEnd + 1) : Lawful html before ['\n']
  /-- At the start. -/
  | start (hhead : ∀ i, ¬ Stands "</head>" html i) (hbody : ∀ i, ¬ OpensBody html i) :
      Lawful html [] []

/-- What the place of a page is, is lawful. -/
theorem lawful_place (html : Text) :
    Lawful html (html.take (place html).offset) (if (place html).newLine then ['\n'] else []) := by
  have hheadMark : Text.asciiLower "</head>" = "</head>" := by decide
  have hbodyMark : Text.asciiLower "<body" = "<body" := by decide
  unfold place
  cases hhead : findMark? "</head>" html with
  | some head =>
      have hfirst := (findMark?_eq_some_iff hheadMark (by decide) html head).1 hhead
      have hlength : (html.take head).length = head :=
        List.length_take_of_le (Nat.le_of_lt (Stands.lt_length hheadMark (by decide) hfirst.1))
      exact .head (hlength.symm ▸ hfirst)
  | none =>
      have hnone := (findMark?_eq_none_iff hheadMark (by decide) html).1 hhead
      cases hbody : findMark? "<body" html with
      | none =>
          have hnobody := (findMark?_eq_none_iff hbodyMark (by decide) html).1 hbody
          exact .start hnone fun i hi => hnobody i hi.1
      | some tag =>
          have hfirst := (findMark?_eq_some_iff hbodyMark (by decide) html tag).1 hbody
          rw [Option.bind_some]
          cases hend : Text.findFrom? ['>'] html tag with
          | none =>
              -- Where the first tag does not end, no later one does.
              have hnoend := (findFrom?_tagEnd_eq_none_iff html tag).1 hend
              exact .start hnone fun i ⟨hi, j, hij, hat⟩ =>
                hnoend j (Nat.le_trans (hfirst.2 hi) hij) hat
          | some tagEnd =>
              have hends := (findFrom?_tagEnd_eq_some_iff html tag tagEnd).1 hend
              have hlt := (List.getElem?_eq_some_iff.1 hends.1.2).1
              refine .body hnone ⟨⟨hfirst.1, tagEnd, hends.1⟩, fun i hi => hfirst.2 hi.1⟩ hends ?_
              exact List.length_take_of_le hlt

/-! ## The page -/

/-- What is put into a page: a line for each stylesheet and then for each script, and in dev mode
    the script that reloads the page. -/
def lines (c : Page.Context) (stylesheets scripts : List Text) : Text :=
  (stylesheets ++ scripts).flatMap tagLine ++
    if c.options.devMode then reloadScript c.reloadPath else []

theorem block_eq_lines (c : Page.Context) (stylesheets scripts : List Text) :
    block stylesheets scripts (Page.reload c) = lines c stylesheets scripts := by
  rw [block, lines, List.flatMap_append, List.flatMap_def, List.flatMap_def, Page.reload]
  cases c.options.devMode <;> rfl

/-- **Tags are only inserted, at one lawful place.** Nothing of the page changes, and nothing is put
    in where there is nothing to put in. -/
theorem inject_lawful (c : Page.Context) (html : Text) (stylesheets scripts : List Text) :
    ∃ before lineFeed after, html = before ++ after ∧
      inject html stylesheets scripts (Page.reload c) =
        before ++ lineFeed ++ lines c stylesheets scripts ++ after ∧
      if stylesheets = [] ∧ scripts = [] ∧ c.options.devMode = false then
        lineFeed ++ lines c stylesheets scripts = []
      else Lawful html before lineFeed := by
  have hnothing : (stylesheets.isEmpty && scripts.isEmpty && (Page.reload c).isNone) = true ↔
      stylesheets = [] ∧ scripts = [] ∧ c.options.devMode = false := by
    cases hmode : c.options.devMode <;> simp [Page.reload, hmode]
  rw [inject]
  split
  next h =>
    have hempty := hnothing.1 h
    have hlines : lines c stylesheets scripts = [] := by
      obtain ⟨rfl, rfl, hmode⟩ := hempty
      simp [lines, hmode]
    refine ⟨html, [], [], (List.append_nil html).symm, by simp [hlines], ?_⟩
    rw [if_pos hempty, hlines, List.append_nil]
  next h =>
    refine ⟨html.take (place html).offset, if (place html).newLine then ['\n'] else [],
      html.drop (place html).offset, (List.take_append_drop ..).symm, ?_, ?_⟩
    · simp only [inserted, block_eq_lines, List.append_assoc]
    · rw [if_neg fun hempty => h (hnothing.2 hempty)]
      exact lawful_place html

/-- Letters with a longer lower case do not move the place. -/
example : inject "İİ<BODY id='x'>y" ["z"] [] none = "İİ<BODY id='x'>\n  z\ny" := by decide +kernel

end Injection
end PageLoom
