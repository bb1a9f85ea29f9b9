import Mathlib.Algebra.Ring.Nat
import Mathlib.Data.List.Basic
import PageLoom.Watch.Debouncer

set_option autoImplicit false

/-! # What becomes of a timer

The signals that follow a timer decide what becomes of it (`fate`): it runs out when the clock comes
to its time, unless it is set anew or cancelled before (`fate_eq_ranOut`, `exists_quiet_of_fate`). A
debouncer has one timer running at most, and that is the one it set last (`Debouncer.Single`). -/

namespace PageLoom
namespace Watch

variable {extensions : List Text} {outcome : Nat → Option Text} {now due : Int}
  {signals after : List Signal} {s : Signal} {l : Timeline}

/-! ## Signals -/

namespace Signal

/-- Whether a signal sets the timer anew. -/
def restarts (extensions : List Text) : Signal → Bool
  | .trigger => true
  | .change c => (c.relevant? extensions).isSome
  | .advance _ | .cancel => false

/-- Whether a signal stops the timer. -/
def stops (extensions : List Text) (s : Signal) : Bool := s = .cancel || s.restarts extensions

/-- Whether a signal is anything but a change that does not matter. -/
def matters (extensions : List Text) : Signal → Bool
  | .change c => (c.relevant? extensions).isSome
  | _ => true

/-- The time that a signal takes. -/
def span : Signal → Nat
  | .advance time => time
  | _ => 0

end Signal

/-- The time that signals take. -/
def elapsed (signals : List Signal) : Nat := (signals.map Signal.span).sum

/-- What becomes of a timer. -/
inductive Fate where
  | ranOut | restarted | cancelled
  /-- It is still running. -/
  | waiting
  deriving DecidableEq, Repr

/-- What the signals from `now` on make of a timer that is due at `due`. A timer that is due when
    other signals come has run out before them. -/
def fate (extensions : List Text) (due : Int) : Int → List Signal → Fate
  | _, [] => .waiting
  | now, s :: rest =>
      match s with
      | .advance time =>
          if due ≤ now + time then .ranOut else fate extensions due (now + time) rest
      | .trigger => .restarted
      | .cancel => .cancelled
      | .change c =>
          if (c.relevant? extensions).isSome then .restarted else fate extensions due now rest

theorem elapsed_cons (s : Signal) (signals : List Signal) :
    elapsed (s :: signals) = s.span + elapsed signals := rfl

theorem elapsed_append (signals after : List Signal) :
    elapsed (signals ++ after) = elapsed signals + elapsed after := by
  rw [elapsed, List.map_append, List.sum_append]
  rfl

/-! ## Kinds of signals -/

/-- Time passes, or the timer is stopped, or nothing happens. -/
theorem Signal.kinds (extensions : List Text) (s : Signal) :
    (∃ time, s = .advance time) ∨ s = .cancel ∨ s.restarts extensions = true ∨
      s.matters extensions = false := by
  cases s with
  | advance time => exact .inl ⟨time, rfl⟩
  | cancel => exact .inr (.inl rfl)
  | trigger => exact .inr (.inr (.inl rfl))
  | change c =>
      cases h : (c.relevant? extensions).isSome with
      | true => exact .inr (.inr (.inl h))
      | false => exact .inr (.inr (.inr h))

section Restarts

variable (h : s.restarts extensions = true)

include h

theorem span_of_restarts : s.span = 0 := by
  cases s <;> simp_all [Signal.restarts, Signal.span]

theorem stops_of_restarts : s.stops extensions = true := by simp [Signal.stops, h]

theorem fate_of_restarts : fate extensions due now (s :: after) = .restarted := by
  cases s <;> simp_all [Signal.restarts, fate]

theorem step_of_restarts : (l.step extensions outcome s).1 = l.trigger := by
  cases s with
  | trigger => rfl
  | change c =>
      obtain ⟨path, hpath⟩ := Option.isSome_iff_exists.1 h
      simp [Timeline.step, hpath]
  | advance => cases h
  | cancel => cases h

end Restarts

section Idle

variable (h : s.matters extensions = false)

include h

/-- A signal that does not matter is a change that is none of the watched ones. -/
theorem exists_change : ∃ c : Change, s = .change c ∧ c.relevant? extensions = none := by
  cases s <;> simp_all [Signal.matters]

theorem span_of_idle : s.span = 0 := by
  obtain ⟨c, rfl, -⟩ := exists_change h
  rfl

theorem restarts_of_idle : s.restarts extensions = false := by
  obtain ⟨c, rfl, hnone⟩ := exists_change h
  simp [Signal.restarts, hnone]

theorem stops_of_idle : s.stops extensions = false := by
  obtain ⟨c, rfl, hnone⟩ := exists_change h
  simp [Signal.stops, Signal.restarts, hnone]

theorem fate_of_idle : fate extensions due now (s :: after) = fate extensions due now after := by
  obtain ⟨c, rfl, hnone⟩ := exists_change h
  simp [fate, hnone]

theorem step_of_idle : l.step extensions outcome s = (l, []) := by
  obtain ⟨c, rfl, hnone⟩ := exists_change h
  simp [Timeline.step, hnone]

end Idle

theorem fate_advance {time : Nat} : fate extensions due now (.advance time :: after) =
    if due ≤ now + time then .ranOut else fate extensions due (now + time) after := rfl

/-! ## What becomes of a timer -/

/-- A timer runs out if the clock comes to its time before any signal stops it. -/
theorem fate_eq_ranOut {quiet : List Signal} {time : Nat}
    (hquiet : ∀ s ∈ quiet, s.stops extensions = false)
    (hdue : due ≤ now + elapsed quiet + time) :
    fate extensions due now (quiet ++ .advance time :: after) = .ranOut := by
  induction quiet generalizing now with
  | nil => exact if_pos (by simpa [elapsed] using hdue)
  | cons s quiet ih =>
      obtain ⟨hs, hrest⟩ := List.forall_mem_cons.1 hquiet
      rw [elapsed_cons] at hdue
      rcases s.kinds extensions with ⟨time', rfl⟩ | rfl | hrestarts | hidle
      · -- Its time may come even sooner, while `quiet` lasts.
        rw [List.cons_append, fate_advance]
        split
        next => rfl
        next => exact ih hrest (by simp only [Signal.span] at hdue; omega)
      · cases hs
      · cases (stops_of_restarts hrestarts).symm.trans hs
      · rw [List.cons_append, fate_of_idle hidle]
        exact ih hrest (by rw [span_of_idle hidle] at hdue; omega)

theorem exists_quiet_of_fate (h : fate extensions due now signals = .ranOut) :
    ∃ (quiet : List Signal) (time : Nat) (rest : List Signal),
      signals = quiet ++ .advance time :: rest ∧
      (∀ s ∈ quiet, s.stops extensions = false) ∧ due ≤ now + elapsed quiet + time := by
  induction signals generalizing now with
  | nil => cases h
  | cons s rest ih =>
      rcases s.kinds extensions with ⟨time, rfl⟩ | rfl | hs | hs
      · rw [fate_advance] at h
        split at h
        next hdue => exact ⟨[], time, rest, rfl, nofun, by simpa [elapsed] using hdue⟩
        next =>
          obtain ⟨quiet, time', rest', rfl, hquiet, hdue⟩ := ih h
          refine ⟨.advance time :: quiet, time', rest', rfl, ?_, ?_⟩
          · exact List.forall_mem_cons.2 ⟨rfl, hquiet⟩
          · simp only [elapsed_cons, Signal.span]
            omega
      · cases h
      · cases (fate_of_restarts hs).symm.trans h
      · obtain ⟨quiet, time, rest', rfl, hquiet, hdue⟩ := ih ((fate_of_idle hs).symm.trans h)
        refine ⟨s :: quiet, time, rest', rfl, ?_, ?_⟩
        · exact List.forall_mem_cons.2 ⟨stops_of_idle hs, hquiet⟩
        · rw [elapsed_cons, span_of_idle hs]
          omega

/-- Signals that leave a timer running do not keep it from what comes after them. -/
theorem fate_append (h : fate extensions due now signals = .waiting) :
    fate extensions due now (signals ++ after) =
      fate extensions due (now + elapsed signals) after := by
  induction signals generalizing now with
  | nil => simp [elapsed]
  | cons s rest ih =>
      rw [elapsed_cons, List.cons_append]
      rcases s.kinds extensions with ⟨time, rfl⟩ | rfl | hs | hs
      · rw [fate_advance] at h ⊢
        split at h
        next => cases h
        next hdue =>
          rw [if_neg hdue, ih h, Signal.span, Int.natCast_add, Int.add_assoc]
      · cases h
      · cases (fate_of_restarts hs).symm.trans h
      · rw [fate_of_idle hs] at h ⊢
        rw [ih h, span_of_idle hs, Nat.zero_add]

/-! ## The debouncer -/

namespace Debouncer

variable {d : Debouncer}

/-- At most one timer is running, and then it is the one that is held. -/
def Single (d : Debouncer) : Prop :=
  d.running = [] ∨ ∃ t, d.running = [t] ∧ d.held = some t.number

theorem Single.length_le (h : d.Single) : d.running.length ≤ 1 := by
  rcases h with h | ⟨t, h, -⟩ <;> simp [h]

theorem single_idle (delay : Int) : (idle delay).Single := .inl rfl

/-- Stopping the timer that is held leaves none. -/
theorem Single.stopHeld (h : d.Single) : d.stopHeld.running = [] := by
  rcases h with h | ⟨t, h, hheld⟩
  · simp [Debouncer.stopHeld, h]
  · simp [Debouncer.stopHeld, h, hheld]

theorem Single.running_trigger (h : d.Single) (now : Int) :
    (d.trigger now).running = [⟨d.made, now + d.delay⟩] := by
  simp [Debouncer.trigger, h.stopHeld]

theorem Single.running_cancel (h : d.Single) : d.cancel.running = [] := h.stopHeld

theorem Single.trigger (h : d.Single) (now : Int) : (d.trigger now).Single :=
  .inr ⟨_, h.running_trigger now, rfl⟩

theorem Single.cancel (h : d.Single) : d.cancel.Single := .inl h.running_cancel

theorem Single.expire (h : d.Single) (now : Int) : (d.expire now).1.Single := by
  rcases h with h | ⟨t, h, hheld⟩
  · exact .inl (by simp [Debouncer.expire, h])
  · by_cases hdue : now < t.due
    · exact .inr ⟨t, by simp [Debouncer.expire, h, hdue], hheld⟩
    · exact .inl (by simp [Debouncer.expire, h, hdue])

end Debouncer

theorem single_step (h : l.debouncer.Single) (s : Signal) :
    (l.step extensions outcome s).1.debouncer.Single := by
  rcases s.kinds extensions with ⟨time, rfl⟩ | rfl | hs | hs
  · exact h.expire _
  · exact h.cancel
  · rw [step_of_restarts hs]
    exact h.trigger _
  · rw [step_of_idle hs]
    exact h

end Watch
end PageLoom
