import PageLoom.Proofs.PageError
import PageLoom.Proofs.Template.Unclosed

set_option autoImplicit false

/-! # What an error tells

A source is read marker by marker from the left, its block first, and reading it fails at the first
marker that never closes, wherever that is (`FirstUnclosed`). The error tells the text in which the
marker stands, which is the source for the block and the body for any other marker, and where in
this text it opens. Its excerpt shows that opening brace above the caret (`Tells`). -/

namespace PageLoom
namespace Template

/-- Read marker by marker, the block first, the text comes at `start` to one that never closes. -/
def FirstUnclosed (text : Text) (start : Nat) : Prop :=
  ∃ closed stop, Closed text 0 closed stop ∧
    Text.findFrom? Marker.opening text stop = some start ∧ Marker.close? text (start + 2) = none

/-- Two readings come to the same marker, as both pass over the same closed ones. -/
theorem Closed.start_eq {text : Text} {pos stop stop' start start' : Nat}
    {closed closed' : List Expression} (h : Closed text pos closed stop)
    (hfind : Text.findFrom? Marker.opening text stop = some start)
    (hclose : Marker.close? text (start + 2) = none) (h' : Closed text pos closed' stop')
    (hfind' : Text.findFrom? Marker.opening text stop' = some start')
    (hclose' : Marker.close? text (start' + 2) = none) : start = start' := by
  induction h generalizing closed' with
  | nil pos =>
      cases h' with
      | nil => exact Option.some.inj (hfind.symm.trans hfind')
      | cons hfirst hfirstClose =>
          obtain rfl := Option.some.inj (hfind.symm.trans hfirst)
          cases hclose.symm.trans hfirstClose
  | cons hfirst hfirstClose _ ih =>
      cases h' with
      | nil =>
          obtain rfl := Option.some.inj (hfind'.symm.trans hfirst)
          cases hclose'.symm.trans hfirstClose
      | cons hfirst' hfirstClose' hrest' =>
          obtain rfl := Option.some.inj (hfirst.symm.trans hfirst')
          obtain rfl := Option.some.inj (hfirstClose.symm.trans hfirstClose')
          exact ih hfind hrest'

theorem FirstUnclosed.eq {text : Text} {start start' : Nat} (h : FirstUnclosed text start)
    (h' : FirstUnclosed text start') : start = start' := by
  obtain ⟨closed, stop, hclosed, hfind, hclose⟩ := h
  obtain ⟨closed', stop', hclosed', hfind', hclose'⟩ := h'
  exact hclosed.start_eq hfind hclose hclosed' hfind' hclose'

/-- What an error tells of a source that does not parse. -/
structure Tells (source : Text) (fault : PageError) (text : Text) (position : Nat) : Prop where
  kind : fault.kind = .unclosed (some (position : Int)) text
  /-- The text is the source as long as its block is not read, and then the body. -/
  within : text = source ∨ ∃ declarations, split source = .ok (declarations, text)
  /-- A marker opens at the position and never closes, and those before it in the text are
      closed. -/
  reported : ∃ closed, Reported text position closed
  /-- It is the first marker of the source that never closes. -/
  first : ∀ start, FirstUnclosed source start ↔ start = source.length - text.length + position
  /-- The excerpt has two lines, and the first brace of the marker stands above the caret. -/
  caret : ∀ width, 1 ≤ width → ∃ shown column,
    PageError.PointsAt text position width (fault.context width) shown column ∧
      shown[column]? = some '{'

/-- The text that an error tells is the source or its body. -/
theorem within_of_parse {source text : Text} {fault : PageError} {position : Option Int}
    (h : parse source = .error fault) (hkind : fault.kind = .unclosed position text) :
    text = source ∨ ∃ declarations, split source = .ok (declarations, text) := by
  rcases (parse_eq_error_iff source fault).1 h with hblock | ⟨declarations, body, hsplit, hbody⟩
  · obtain ⟨-, -, rfl⟩ := (split_eq_error_iff source fault).1 hblock
    exact .inl (PageError.Kind.unclosed.inj hkind).2.symm
  · obtain ⟨_, _, start, -, -, -, rfl⟩ := exists_closed_of_expressionsFrom hbody
    obtain rfl := (PageError.Kind.unclosed.inj hkind).2
    exact .inr ⟨declarations, hsplit⟩

theorem tells_of_parse {source : Text} {fault : PageError} (h : parse source = .error fault) :
    ∃ text position, Tells source fault text position := by
  obtain ⟨text, position, closed, stop, hkind, -, hreported, hclosed, hfind, hclose⟩ :=
    reported_of_parse h
  have hfirst : FirstUnclosed source (source.length - text.length + position) :=
    ⟨_, stop, hclosed, hfind, hclose⟩
  have hbrace : text[position]? = some '{' := by
    rw [← Text.singleton_prefix_drop_iff]
    exact List.IsPrefix.trans ⟨['{'], rfl⟩ hreported.opens
  refine ⟨text, position, hkind, within_of_parse h hkind, ⟨closed, hreported⟩,
    fun start => ⟨fun hstart => hstart.eq hfirst, fun heq => heq ▸ hfirst⟩, fun width hwidth => ?_⟩
  obtain ⟨shown, column, hpoints⟩ := PageError.pointsAt_context hkind hbrace (by decide) hwidth
  exact ⟨shown, column, hpoints, hpoints.above.trans hbrace⟩

/-- **An error tells the first marker that never closes.** A source fails to parse exactly if it has
    one, and then the error tells where it opens and points at it. -/
theorem parse_fails_iff_and_tells (source : Text) :
    ((∃ fault, parse source = .error fault) ↔ ∃ start, FirstUnclosed source start) ∧
      ∀ fault, parse source = .error fault → ∃ text position, Tells source fault text position := by
  refine ⟨⟨?_, ?_⟩, fun fault => tells_of_parse⟩
  · rintro ⟨fault, hfault⟩
    obtain ⟨text, position, htells⟩ := tells_of_parse hfault
    exact ⟨_, (htells.first _).2 rfl⟩
  · rintro ⟨start, closed, stop, hclosed, hfind, hclose⟩
    cases hparse : parse source with
    | error fault => exact ⟨fault, rfl⟩
    | ok t => exact absurd ⟨closed, stop, start, hclosed, hfind, hclose⟩ (not_leftOpen_of_parse hparse)

/-- A body on several lines behind a block, with a marker that a literal seems to close. -/
def tornBody : Text :=
  "\n<p>" ++ Marker.opening ++ "b" ++ Marker.closing ++ "é\n" ++ Marker.opening ++ ['{'] ++ " '" ++
    Marker.closing ++ "'\n" ++ ['}']

theorem tells_tornBody :
    let source := "\n " ++ (Marker.opening ++ "a" ++ Marker.closing ++ tornBody)
    parse source = .error (.unclosedExpression 11 tornBody) ∧
      (∃ start, FirstUnclosed source start) ∧
      ∃ text position, Tells source (.unclosedExpression 11 tornBody) text position := by
  intro source
  have hparse : parse source = .error (.unclosedExpression 11 tornBody) := by rfl
  have hfails := parse_fails_iff_and_tells source
  exact ⟨hparse, hfails.1.1 ⟨_, hparse⟩, hfails.2 _ hparse⟩

end Template
end PageLoom
