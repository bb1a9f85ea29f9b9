import PageLoom.Proofs.Marker.Balance
import PageLoom.Proofs.Text.Search
import PageLoom.Template

set_option autoImplicit false

/-! # Closed markers

The first markers of a body from some position on, as long as each of them is closed. A body is
read marker by marker, and whether the last one is followed by none or by one that never closes, the
markers before it are the same. They stand apart, in order and without a gap that opens one
(`Closed.covers`), and they stay what they are behind any other text (`Closed.append_left`). -/

namespace PageLoom
namespace Template

/-! ## Where markers open -/

theorem findFrom?_opening_eq_none_iff (body : Text) (pos : Nat) :
    Text.findFrom? Marker.opening body pos = none ↔
      ∀ i, pos ≤ i → ¬ Marker.opening <+: body.drop i :=
  Text.findFrom?_eq_none_iff_of_ne_nil (List.cons_ne_nil _ _) body pos

theorem findFrom?_opening_eq_some_iff (body : Text) (pos start : Nat) :
    Text.findFrom? Marker.opening body pos = some start ↔
      pos ≤ start ∧ Marker.opening <+: body.drop start ∧
        ∀ i, pos ≤ i → i < start → ¬ Marker.opening <+: body.drop i :=
  Text.findFrom?_eq_some_iff_of_ne_nil (List.cons_ne_nil _ _) body pos start

/-! ## One marker -/

/-- A marker with what follows it: an opening brace, the text inside, a closing brace, the rest. -/
theorem drop_eq_of_close? {body : Text} {start close : Nat}
    (hopen : Marker.opening <+: body.drop start)
    (hclose : Marker.close? body (start + 2) = some close) :
    body.drop start = Marker.opening ++ Text.slice body (start + 2) close ++ Marker.closing ++
      body.drop (close + 2) := by
  obtain ⟨hle, hclosing⟩ := Marker.closing_prefix_of_close? hclose
  have hafter : ∀ {needle : Text} {i : Nat}, needle <+: body.drop i →
      body.drop i = needle ++ body.drop (i + needle.length) := by
    intro needle i hpre
    rw [← List.drop_drop]
    exact (List.prefix_iff_eq_append.1 hpre).symm
  calc body.drop start = Marker.opening ++ body.drop (start + 2) := hafter hopen
    _ = Marker.opening ++ (Text.slice body (start + 2) close ++ body.drop close) := by
        rw [Text.slice_append_drop body hle]
    _ = Marker.opening ++ (Text.slice body (start + 2) close ++
          (Marker.closing ++ body.drop (close + 2))) := by
        rw [hafter hclosing]
        rfl
    _ = _ := by simp only [List.append_assoc]

/-- The text of a closed marker has braces at both ends. -/
theorem text_eq_of_close? {body : Text} {start close : Nat}
    (hopen : Marker.opening <+: body.drop start)
    (hclose : Marker.close? body (start + 2) = some close) :
    (expressionAt body start close).text =
      Marker.opening ++ Text.slice body (start + 2) close ++ Marker.closing := by
  have hle := (Marker.closing_prefix_of_close? hclose).1
  have hdrop : Text.slice body start (close + 2) ++ body.drop (close + 2) = _ :=
    (Text.slice_append_drop body (by omega)).trans (drop_eq_of_close? hopen hclose)
  exact List.append_cancel_right hdrop

/-- A closed marker takes four characters at least and ends inside the body. -/
theorem span_of_close? {body : Text} {start close : Nat}
    (hclose : Marker.close? body (start + 2) = some close) :
    start + 4 ≤ close + 2 ∧ close + 2 ≤ body.length := by
  have hle := (Marker.closing_prefix_of_close? hclose).1
  exact ⟨by omega, Marker.add_two_le_length_of_close? hclose⟩

/-- The marker, seen in a text with `n` characters before those it was found in. -/
def movedBy (n : Nat) (e : Expression) : Expression :=
  { e with start := n + e.start, stop := n + e.stop }

theorem expressionAt_append_left (before body : Text) (start close : Nat) :
    expressionAt (before ++ body) (before.length + start) (before.length + close) =
      movedBy before.length (expressionAt body start close) := by
  simp only [expressionAt, movedBy, Nat.add_assoc, Text.slice_append_left]

/-! ## One marker after the other -/

/-- The first markers of `body` from `pos` on are `es`; each of them is closed, and the last one
    ends at `stop`. -/
inductive Closed (body : Text) : Nat → List Expression → Nat → Prop where
  | nil (pos : Nat) : Closed body pos [] pos
  | cons {pos start close stop : Nat} {es : List Expression}
      (hfind : Text.findFrom? Marker.opening body pos = some start)
      (hclose : Marker.close? body (start + 2) = some close)
      (hrest : Closed body (close + 2) es stop) :
      Closed body pos (expressionAt body start close :: es) stop

variable {body : Text} {pos mid stop : Nat} {es fs : List Expression}

theorem Closed.trans (h : Closed body pos es mid) (h' : Closed body mid fs stop) :
    Closed body pos (es ++ fs) stop := by
  induction h with
  | nil => exact h'
  | cons hfind hclose _ ih => exact .cons hfind hclose (ih h')

/-- Markers are found and closed in the same way behind any other text. -/
theorem Closed.append_left (h : Closed body pos es stop) (before : Text) :
    Closed (before ++ body) (before.length + pos) (es.map (movedBy before.length))
      (before.length + stop) := by
  induction h with
  | nil => exact .nil _
  | @cons pos start close stop es hfind hclose _ ih =>
      have hfind' : Text.findFrom? Marker.opening (before ++ body) (before.length + pos) =
          some (before.length + start) := by
        rw [Text.findFrom?_append_left, hfind]
        rfl
      have hclose' : Marker.close? (before ++ body) (before.length + start + 2) =
          some (before.length + close) := by
        rw [Nat.add_assoc, Marker.close?_append_left, hclose, Option.map_some, Nat.add_comm]
      rw [List.map_cons, ← expressionAt_append_left]
      exact .cons hfind' hclose' ih

/-- Where no marker opens behind the last one, every marker that opens is closed. -/
theorem Closed.close?_ne_none (h : Closed body pos es stop)
    (hnone : Text.findFrom? Marker.opening body stop = none) {start : Nat}
    (h' : Closed body pos fs mid) (hfind : Text.findFrom? Marker.opening body mid = some start) :
    Marker.close? body (start + 2) ≠ none := by
  -- Both readings find the same markers, as long as the second one goes on.
  induction h generalizing fs with
  | nil pos =>
      cases h' with
      | nil => exact absurd (hnone.symm.trans hfind) (by simp)
      | cons hfirst => exact absurd (hnone.symm.trans hfirst) (by simp)
  | @cons pos first close stop es hfirst hclose _ ih =>
      cases h' with
      | nil =>
          obtain rfl := Option.some.inj (hfirst.symm.trans hfind)
          simp [hclose]
      | cons hfirst' hclose' hrest' =>
          obtain rfl := Option.some.inj (hfirst.symm.trans hfirst')
          obtain rfl := Option.some.inj (hclose.symm.trans hclose')
          exact ih hnone hrest'

/-- Every marker is one that opens at its start and is closed. -/
theorem Closed.exists_close (h : Closed body pos es stop) : ∀ e ∈ es, ∃ close,
    Marker.opening <+: body.drop e.start ∧ Marker.close? body (e.start + 2) = some close ∧
      e = expressionAt body e.start close := by
  induction h with
  | nil => simp
  | @cons pos start close stop es hfind hclose _ ih =>
      intro e he
      rcases List.mem_cons.1 he with rfl | he
      · have hopen := ((findFrom?_opening_eq_some_iff body pos start).1 hfind).2.1
        exact ⟨close, hopen, hclose, rfl⟩
      · exact ih e he

/-- The markers lie between the two positions. -/
theorem Closed.bounds (h : Closed body pos es stop) :
    pos ≤ stop ∧ ∀ e ∈ es, pos ≤ e.start ∧ e.stop ≤ stop := by
  induction h with
  | nil => simp
  | @cons pos start close stop es hfind hclose _ ih =>
      have hpos := ((findFrom?_opening_eq_some_iff body pos start).1 hfind).1
      have hspan := span_of_close? hclose
      obtain ⟨hstop, hrest⟩ := ih
      refine ⟨by omega, fun e he => ?_⟩
      rcases List.mem_cons.1 he with rfl | he
      · exact ⟨hpos, hstop⟩
      · obtain ⟨hstart, hend⟩ := hrest e he
        exact ⟨by omega, hend⟩

/-- The last marker ends inside the body. -/
theorem Closed.stop_le_length (h : Closed body pos es stop) (hpos : pos ≤ body.length) :
    stop ≤ body.length := by
  induction h with
  | nil => exact hpos
  | cons _ hclose _ ih => exact ih (span_of_close? hclose).2

/-- Markers follow each other without overlap. -/
theorem Closed.pairwise (h : Closed body pos es stop) :
    es.Pairwise fun e f => e.stop ≤ f.start := by
  induction h with
  | nil => exact List.Pairwise.nil
  | cons _ _ hrest ih => exact List.Pairwise.cons (fun f hf => (hrest.bounds.2 f hf).1) ih

/-- Between the two positions, no opening brace stands outside of the markers. -/
theorem Closed.covers (h : Closed body pos es stop) : ∀ i, pos ≤ i → i < stop →
    Marker.opening <+: body.drop i → ∃ e ∈ es, e.start ≤ i ∧ i < e.stop := by
  induction h with
  | nil =>
      intro i hpos hstop
      omega
  | @cons pos start close stop es hfind _ _ ih =>
      intro i hpos hstop hpre
      have hfirst := ((findFrom?_opening_eq_some_iff body pos start).1 hfind).2.2
      by_cases hbefore : i < start
      · exact absurd hpre (hfirst i hpos hbefore)
      · by_cases hinside : i < close + 2
        · exact ⟨_, List.mem_cons_self .., by simpa [expressionAt] using hbefore, hinside⟩
        · obtain ⟨e, he, hspan⟩ := ih i (by omega) hstop hpre
          exact ⟨e, List.mem_cons_of_mem _ he, hspan⟩

end Template
end PageLoom
