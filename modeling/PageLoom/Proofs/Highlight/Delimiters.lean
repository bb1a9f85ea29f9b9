import PageLoom.Highlight.Region
import PageLoom.Proofs.Template.Unclosed

set_option autoImplicit false

/-! # The lexer of templates and the parser agree

The parser cuts the blanks and the declarations block off a source and looks for markers in the
body; the lexer looks for them in the source as it stands. Both find the same ones, because a search
and a scan see nothing left of where they begin. Where the parser gives up, at a marker that is
never closed, the lexer has come to the same marker and takes all that is left for markup. -/

namespace PageLoom
namespace Highlight

open Template

variable {κ : Type}

/-! ## The lexemes that are the template's own -/

/-- A lexer whose lexemes are marked as not the template's own. -/
def embedded (lexer : Lexer κ) : Lexer (Option κ) := fun text =>
  (lexer text).map fun l => ⟨l.offset, some l.kind, l.value⟩

/-- The lexeme without that mark; the template's own are of the kind `mark`. -/
def Lexeme.unmarked (mark : κ) (l : Lexeme (Option κ)) : Lexeme κ :=
  ⟨l.offset, l.kind.getD mark, l.value⟩

/-- The doubled braces that the lexer of templates emits itself, with their offsets. -/
def delimiters (markup script : Lexer κ) (source : Text) : List (Nat × Text) :=
  ((template (embedded markup) (embedded script) none source).filter (·.kind.isNone)).map
    fun l => (l.offset, l.value)

theorem lexemesAt_embedded (lexer : Lexer κ) (mark : κ) (offset : Nat) (piece : Text) :
    (lexemesAt (embedded lexer) offset piece).map (Lexeme.unmarked mark) =
      lexemesAt lexer offset piece := by
  unfold lexemesAt embedded
  by_cases hempty : piece.isEmpty
  · simp [hempty]
  · simp [hempty, Lexeme.unmarked, Function.comp_def]

theorem templateFrom_embedded (markup script : Lexer κ) (mark : κ) (text : Text) (fuel pos : Nat) :
    (templateFrom (embedded markup) (embedded script) none text fuel pos).map
        (Lexeme.unmarked mark) =
      templateFrom markup script mark text fuel pos := by
  induction fuel generalizing pos with
  | zero => rfl
  | succ fuel ih =>
      rw [templateFrom, templateFrom]
      cases Text.findFrom? Marker.opening text pos with
      | none => exact lexemesAt_embedded markup mark pos _
      | some start =>
          cases hclose : Marker.close? text (start + 2) with
          | none =>
              simp only [hclose]
              exact lexemesAt_embedded markup mark pos _
          | some close =>
              simp only [hclose, List.map_append, List.map_cons, lexemesAt_embedded, ih]
              rfl

/-- The lexemes that are not the template's own are none of its doubled braces. -/
theorem filter_lexemesAt_embedded (lexer : Lexer κ) (offset : Nat) (piece : Text) :
    (lexemesAt (embedded lexer) offset piece).filter (·.kind.isNone) = [] := by
  unfold lexemesAt embedded
  by_cases hempty : piece.isEmpty
  · simp [hempty]
  · simp [hempty]

/-! ## The lexemes along the markers -/

/-- The doubled braces of a marker. -/
def braces (e : Expression) : List (Nat × Text) :=
  [(e.start, Marker.opening), (e.stop - 2, Marker.closing)]

/-- The lexemes of markers, and of the markup before each of them, from a position on. -/
def lexemesTo (markup script : Lexer κ) (mark : κ) (text : Text) :
    Nat → List Expression → List (Lexeme κ)
  | _, [] => []
  | pos, e :: rest =>
      lexemesAt markup pos (Text.slice text pos e.start) ++
        ⟨e.start, mark, Marker.opening⟩ ::
          (lexemesAt script (e.start + 2) (Text.slice text (e.start + 2) (e.stop - 2)) ++
            ⟨e.stop - 2, mark, Marker.closing⟩ :: lexemesTo markup script mark text e.stop rest)

/-- As far as markers are closed, the lexer goes along them. -/
theorem templateFrom_of_closed (markup script : Lexer κ) (mark : κ) {text : Text}
    {pos stop : Nat} {es : List Expression} (h : Closed text pos es stop) {fuel : Nat}
    (hfuel : text.length < fuel + pos) :
    ∃ fuel', text.length < fuel' + stop ∧
      templateFrom markup script mark text fuel pos =
        lexemesTo markup script mark text pos es ++
          templateFrom markup script mark text fuel' stop := by
  induction h generalizing fuel with
  | nil => exact ⟨fuel, hfuel, rfl⟩
  | @cons pos start close stop es hfind hclose _ ih =>
      have hpos := ((findFrom?_opening_eq_some_iff text pos start).1 hfind).1
      have hspan := span_of_close? hclose
      cases fuel with
      | zero => omega
      | succ fuel =>
          obtain ⟨fuel', hfuel', hrest⟩ := @ih fuel (by omega)
          refine ⟨fuel', hfuel', ?_⟩
          simp only [templateFrom, hfind, hclose, hrest, lexemesTo, expressionAt,
            Nat.add_sub_cancel, List.append_assoc, List.cons_append]

/-- Behind them, where no marker opens or the first one never closes, all is markup. -/
theorem templateFrom_of_unclosed (markup script : Lexer κ) (mark : κ) {text : Text} {pos fuel : Nat}
    (hfuel : text.length < fuel + pos)
    (h : ∀ start, Text.findFrom? Marker.opening text pos = some start →
      Marker.close? text (start + 2) = none) :
    templateFrom markup script mark text fuel pos = lexemesAt markup pos (text.drop pos) := by
  cases fuel with
  | zero =>
      rw [List.drop_eq_nil_of_le (by omega)]
      rfl
  | succ fuel =>
      rw [templateFrom]
      cases hfind : Text.findFrom? Marker.opening text pos with
      | none => rfl
      | some start => simp only [h start hfind]

theorem template_of_closed (markup script : Lexer κ) (mark : κ) {text : Text} {stop : Nat}
    {es : List Expression} (hclosed : Closed text 0 es stop)
    (hend : ∀ start, Text.findFrom? Marker.opening text stop = some start →
      Marker.close? text (start + 2) = none) :
    template markup script mark text =
      lexemesTo markup script mark text 0 es ++ lexemesAt markup stop (text.drop stop) := by
  obtain ⟨fuel, hfuel, hlexemes⟩ :=
    templateFrom_of_closed markup script mark hclosed (Nat.lt_succ_self text.length)
  rw [template, hlexemes, templateFrom_of_unclosed markup script mark hfuel hend]

theorem filter_lexemesTo (markup script : Lexer κ) (text : Text) (pos : Nat)
    (es : List Expression) :
    ((lexemesTo (embedded markup) (embedded script) none text pos es).filter
      (·.kind.isNone)).map (fun l => (l.offset, l.value)) = es.flatMap braces := by
  induction es generalizing pos with
  | nil => rfl
  | cons e rest ih =>
      simp [lexemesTo, filter_lexemesAt_embedded, ih, braces]

theorem delimiters_of_closed (markup script : Lexer κ) {text : Text} {stop : Nat}
    {es : List Expression} (hclosed : Closed text 0 es stop)
    (hend : ∀ start, Text.findFrom? Marker.opening text stop = some start →
      Marker.close? text (start + 2) = none) :
    delimiters markup script text = es.flatMap braces := by
  rw [delimiters, template_of_closed _ _ _ hclosed hend, List.filter_append,
    filter_lexemesAt_embedded, List.append_nil, filter_lexemesTo]

/-- **The lexer and the parser agree.** The doubled braces that the lexer emits itself are those of
    the block and of the markers that the parser finds, where they stand in the source. If the
    parser reports a marker, they are those of the closed markers before it, and from somewhere
    before the reported marker on, all of the source is handed to the lexer of markup. -/
theorem delimiters_eq (markup script : Lexer κ) (mark : κ) (source : Text) :
    (template (embedded markup) (embedded script) none source).map (Lexeme.unmarked mark) =
        template markup script mark source ∧
      match parse source with
      | .ok t =>
          delimiters markup script source = (inSource source t.body t.expressions).flatMap braces
      | .error fault =>
          ∃ (text : Text) (position : Nat) (closed : List Expression),
            fault.kind = .unclosed (some position) text ∧ text <:+ source ∧
            Reported text position closed ∧
            delimiters markup script source = (inSource source text closed).flatMap braces ∧
            ∃ rest ≤ source.length - text.length + position,
              template markup script mark source =
                lexemesTo markup script mark source 0 (inSource source text closed) ++
                  lexemesAt markup rest (source.drop rest) := by
  refine ⟨templateFrom_embedded markup script mark source _ _, ?_⟩
  cases hparse : parse source with
  | ok t =>
      obtain ⟨stop, hclosed, hnone⟩ := closed_of_parse hparse
      exact delimiters_of_closed markup script hclosed (by simp [hnone])
  | error fault =>
      obtain ⟨text, position, closed, stop, hkind, hsuffix, hreported, hclosed, hfind, hclose⟩ :=
        reported_of_parse hparse
      have hend : ∀ start, Text.findFrom? Marker.opening source stop = some start →
          Marker.close? source (start + 2) = none := by
        intro start hstart
        obtain rfl := Option.some.inj (hfind.symm.trans hstart)
        exact hclose
      have hstop := ((findFrom?_opening_eq_some_iff source stop _).1 hfind).1
      exact ⟨text, position, closed, hkind, hsuffix, hreported,
        delimiters_of_closed markup script hclosed hend, stop, hstop,
        template_of_closed markup script mark hclosed hend⟩

end Highlight
end PageLoom
