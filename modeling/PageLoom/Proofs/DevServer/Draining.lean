import PageLoom.DevServer.InFlight
import Mathlib.Data.List.Basic

set_option autoImplicit false

/-! # Whom draining waits for

Threads begin and end in any order, and however they end, those who are counted are those who are
at it (`Tallied`). So draining waits for everybody who has begun. It does not wait for a connection
whose thread has not begun: that one is not counted yet. -/

namespace PageLoom
namespace InFlight

variable {s s' : InFlight}

/-! ## What an event does -/

/-- All that can come of an event. -/
inductive Move (s : InFlight) : InFlight → Prop
  | stay : Move s s
  | accept (h : s.accepting = true) : Move s { s with connections := s.connections ++ [.accepted] }
  | begin (c : ℕ) (h : s.connections[c]? = some .accepted) :
      Move s { s with connections := s.connections.set c .handling, count := s.count + 1 }
  | finish (c : ℕ) (h : s.connections[c]? = some .handling) :
      Move s { s with connections := s.connections.set c .handled, count := s.count - 1 }
  | close : Move s { s with accepting := false }

theorem move_step (s : InFlight) (e : ConnectionEvent) : s.Move (s.step e) := by
  unfold step
  cases e with
  | accept =>
      dsimp only
      split
      · next h => exact .accept h
      · exact .stay
  | begin c =>
      dsimp only
      split
      · next h => exact .begin c h
      · exact .stay
  | finish c | fail c =>
      dsimp only
      split
      · next h => exact .finish c h
      · exact .stay
  | stopAccepting => exact .close

/-- What every event keeps is kept by a run. -/
theorem run_of_move {p : InFlight → Prop} (hmove : ∀ s s', p s → Move s s' → p s') (h : p s)
    (events : List ConnectionEvent) : p (s.run events) := by
  induction events generalizing s with
  | nil => exact h
  | cons e rest ih => exact ih (hmove s _ h (s.move_step e))

/-! ## Who is counted -/

/-- Those are counted who are at it. -/
def Tallied (s : InFlight) : Prop := s.count = s.connections.count .handling

theorem tallied_idle : idle.Tallied := rfl

namespace Tallied

theorem move (h : s.Tallied) (hmove : s.Move s') : s'.Tallied := by
  unfold Tallied at h ⊢
  cases hmove with
  | stay => exact h
  | accept _ =>
      rw [List.count_append]
      exact h
  | begin c hc =>
      obtain ⟨hlt, hget⟩ := List.getElem?_eq_some_iff.1 hc
      rw [List.count_set hlt, hget, h]
      rfl
  | finish c hc =>
      obtain ⟨hlt, hget⟩ := List.getElem?_eq_some_iff.1 hc
      have hpos : 0 < s.connections.count .handling :=
        List.count_pos_iff.2 (hget ▸ List.getElem_mem hlt)
      rw [List.count_set hlt, hget, h]
      simp
      omega
  | close => exact h

theorem run (h : s.Tallied) (events : List ConnectionEvent) : (s.run events).Tallied :=
  run_of_move (fun _ _ h hmove => h.move hmove) h events

theorem nonneg (h : s.Tallied) : 0 ≤ s.count := by
  rw [h]
  exact Int.natCast_nonneg _

theorem drained_iff (h : s.Tallied) : s.drained = true ↔ .handling ∉ s.connections := by
  unfold drained
  rw [decide_eq_true_eq, h, ← List.count_eq_zero]
  omega

end Tallied

theorem allHandled_iff : s.allHandled = true ↔ ∀ phase ∈ s.connections, phase = .handled := by
  unfold allHandled
  simp

/-! ## Draining -/

/-- After the last was accepted, no connection comes or goes. -/
theorem length_run_of_closed (h : s.accepting = false) (events : List ConnectionEvent) :
    (s.run events).connections.length = s.connections.length := by
  refine (run_of_move (p := fun t => t.accepting = false ∧
    t.connections.length = s.connections.length) ?_ ⟨h, rfl⟩ events).2
  rintro t t' ⟨hclosed, hlength⟩ hmove
  cases hmove with
  | stay => exact ⟨hclosed, hlength⟩
  | accept hopen => cases hclosed.symm.trans hopen
  | begin c _ | finish c _ => exact ⟨hclosed, by rw [← hlength]; exact List.length_set⟩
  | close => exact ⟨rfl, hlength⟩

theorem run_append (s : InFlight) (events more : List ConnectionEvent) :
    s.run (events ++ more) = (s.run events).run more := List.foldl_append

/-- A drain that succeeds has seen nobody counted after some of the stretches. -/
theorem drain?_eq_some {during : List (List ConnectionEvent)} (h : s.drain? during = some s') :
    s'.drained = true ∧ ∃ before after, during = before ++ after ∧ s' = s.run before.flatten := by
  induction during generalizing s with
  | nil =>
      unfold drain? at h
      split at h
      · next hdrained =>
          cases h
          exact ⟨hdrained, [], [], rfl, rfl⟩
      · cases h
  | cons stretch rest ih =>
      unfold drain? at h
      split at h
      · next hdrained =>
          cases h
          exact ⟨hdrained, [], stretch :: rest, rfl, rfl⟩
      · obtain ⟨hdrained, before, after, rfl, rfl⟩ := ih h
        refine ⟨hdrained, stretch :: before, after, rfl, ?_⟩
        rw [List.flatten_cons, run_append]

/-- A drain that fails has seen somebody counted after each of the stretches. -/
theorem drain?_eq_none {during : List (List ConnectionEvent)} (h : s.drain? during = none) (n : ℕ) :
    (s.run (during.take n).flatten).drained = false := by
  induction during generalizing s n with
  | nil =>
      unfold drain? at h
      split at h
      · cases h
      · next hbusy =>
          rw [List.take_nil]
          exact Bool.eq_false_iff.2 hbusy
  | cons stretch rest ih =>
      unfold drain? at h
      split at h
      · cases h
      · next hbusy =>
          cases n with
          | zero => exact Bool.eq_false_iff.2 hbusy
          | succ n =>
              rw [List.take_succ_cons, List.flatten_cons, run_append]
              exact ih h n

/-- What holds of a listener, and of draining from then on. -/
structure Accounted (s : InFlight) : Prop where
  tallied : s.count = s.connections.count .handling
  nonneg : 0 ≤ s.count
  /-- Nobody is counted when all who began are done. -/
  settled : .handling ∉ s.connections → s.count = 0
  /-- A drain that succeeds leaves nobody at it: every connection that was accepted is handled,
      but for those whose threads have not begun. -/
  drained : ∀ during s', (s.step .stopAccepting).drain? during = some s' →
    s'.connections.length = s.connections.length ∧
      (s'.allHandled = true ↔ .accepted ∉ s'.connections)
  /-- A drain fails only if somebody is at it whenever it looks. -/
  refused : ∀ during, (s.step .stopAccepting).drain? during = none →
    ∀ n, .handling ∈ ((s.step .stopAccepting).run (during.take n).flatten).connections

theorem Tallied.accounted (h : s.Tallied) : s.Accounted where
  tallied := h
  nonneg := h.nonneg
  settled hnobody := by
    rw [h, List.count_eq_zero.2 hnobody]
    rfl
  drained during s' hdrain := by
    have hclosed : (s.step .stopAccepting).Tallied := h.move (s.move_step _)
    obtain ⟨hdrained, before, -, -, rfl⟩ := drain?_eq_some hdrain
    refine ⟨length_run_of_closed rfl before.flatten, ?_⟩
    rw [(hclosed.run before.flatten).drained_iff] at hdrained
    rw [allHandled_iff]
    constructor
    · intro hall hmem
      cases hall _ hmem
    · intro hbegun phase hmem
      cases phase with
      | accepted => exact absurd hmem hbegun
      | handling => exact absurd hmem hdrained
      | handled => rfl
  refused during hdrain n := by
    have hclosed : (s.step .stopAccepting).Tallied := h.move (s.move_step _)
    by_contra hnobody
    cases (drain?_eq_none hdrain n).symm.trans ((hclosed.run _).drained_iff.2 hnobody)

/-- **Draining waits for everybody who has begun.** However connections are accepted and their
    threads begin, return and fail, the count is the number of those at it, and a drain that
    succeeds has missed exactly those connections whose threads have not begun. -/
theorem accounted_run (events : List ConnectionEvent) : (idle.run events).Accounted :=
  (tallied_idle.run events).accounted

/-- A connection was accepted, and draining is over before its thread has begun. -/
theorem not_allHandled_of_drain : ¬ ∀ events during s',
    ((idle.run events).step .stopAccepting).drain? during = some s' → s'.allHandled = true := by
  intro h
  have hhandled := h [.accept] [] ⟨false, [.accepted], 0⟩ (by decide)
  exact absurd hhandled (by decide)

end InFlight
end PageLoom
