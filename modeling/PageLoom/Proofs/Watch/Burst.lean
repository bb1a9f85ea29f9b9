import PageLoom.Proofs.Watch.Timer

set_option autoImplicit false

/-! # One callback for each burst of changes

The callback runs for the timers that run out and for no others (`runs_follow`). Each change of a
burst sets the timer anew before it runs out, so only the timer of the last one can do so
(`Burst.callbacks_eq`). -/

namespace PageLoom
namespace Watch

variable {extensions : List Text} {outcome : Nat → Option Text} {delay now due last : Int}
  {signals after burst : List Signal} {s : Signal} {l : Timeline}

/-! ## When the callback runs -/

/-- The times of the callbacks that signals from `now` on bring about when others come after
    them. -/
def callbacks (extensions : List Text) (delay : Int) (after : List Signal) :
    Int → List Signal → List Int
  | _, [] => []
  | now, s :: rest =>
      (if s.restarts extensions ∧ fate extensions (now + delay) now (rest ++ after) = .ranOut then
        [now + delay] else []) ++ callbacks extensions delay after (now + s.span) rest

/-- The callback to come when the timer that is running is going to run out. -/
def pending (extensions : List Text) (l : Timeline) (signals : List Signal) : List Int :=
  (l.debouncer.running.filter fun t => fate extensions t.due l.now signals = .ranOut).map Timer.due

theorem pending_of_fate_ne (h : ∀ due, ¬ fate extensions due l.now signals = .ranOut) :
    pending extensions l signals = [] := by
  simp [pending, h]

/-- A timer runs out when time passes or later. -/
theorem advance_runs (h : l.debouncer.Single) (time : Nat) (signals : List Signal) :
    (l.step extensions outcome (.advance time)).1.runs ++
        pending extensions (l.step extensions outcome (.advance time)).1 signals =
      l.runs ++ pending extensions l (.advance time :: signals) := by
  rcases h with h | ⟨t, h, -⟩
  · simp [Timeline.step, Debouncer.expire, pending, h]
  · by_cases hdue : t.due ≤ l.now + time
    · simp [Timeline.step, Debouncer.expire, pending, h, fate_advance, hdue, Int.not_lt.2 hdue]
    · have hlater : l.now + time < t.due := Int.not_le.1 hdue
      simp [Timeline.step, Debouncer.expire, pending, h, fate_advance, hdue, hlater,
        List.filter_singleton]

theorem trigger_runs (h : l.debouncer.Single) (signals : List Signal) :
    l.trigger.runs ++ pending extensions l.trigger signals =
      l.runs ++ if fate extensions (l.now + l.debouncer.delay) l.now signals = .ranOut then
        [l.now + l.debouncer.delay] else [] := by
  rw [pending, Timeline.trigger, h.running_trigger]
  split
  next hfate => simp [hfate]
  next hfate => simp [hfate]

theorem delay_step (s : Signal) :
    (l.step extensions outcome s).1.debouncer.delay = l.debouncer.delay := by
  rcases s.kinds extensions with ⟨time, rfl⟩ | rfl | hs | hs
  · rfl
  · rfl
  · rw [step_of_restarts hs]
    rfl
  · rw [step_of_idle hs]

theorem now_step (s : Signal) : (l.step extensions outcome s).1.now = l.now + s.span := by
  rcases s.kinds extensions with ⟨time, rfl⟩ | rfl | hs | hs
  · rfl
  · exact (Int.add_zero _).symm
  · rw [step_of_restarts hs, span_of_restarts hs]
    exact (Int.add_zero _).symm
  · rw [step_of_idle hs, span_of_idle hs]
    exact (Int.add_zero _).symm

/-- From any state with one timer, the callback runs when that timer runs out, and then for each
    signal whose timer does. -/
theorem runs_follow (h : l.debouncer.Single) (signals : List Signal) :
    (l.follow extensions outcome signals).1.runs =
      l.runs ++ pending extensions l signals ++
        callbacks extensions l.debouncer.delay [] l.now signals := by
  induction signals generalizing l with
  | nil => simp [Timeline.follow, pending, fate, callbacks]
  | cons s rest ih =>
      have hrest : (l.follow extensions outcome (s :: rest)).1 =
          ((l.step extensions outcome s).1.follow extensions outcome rest).1 := rfl
      rw [hrest, ih (single_step h s), delay_step, now_step, callbacks, List.append_nil]
      -- What the first signal does shows in the runs so far or in the timer that it leaves.
      rcases s.kinds extensions with ⟨time, rfl⟩ | rfl | hs | hs
      · rw [advance_runs h]
        rfl
      · have hdropped : pending extensions (l.step extensions outcome .cancel).1 rest = [] := by
          show ((l.debouncer.cancel.running.filter _).map Timer.due : List Int) = []
          rw [h.running_cancel]
          rfl
        have hcancelled : pending extensions l (.cancel :: rest) = [] := by
          refine pending_of_fate_ne fun due => ?_
          show ¬ Fate.cancelled = .ranOut
          decide
        rw [hdropped, hcancelled]
        rfl
      · have hstopped : pending extensions l (s :: rest) = [] := by
          refine pending_of_fate_ne fun due => ?_
          rw [fate_of_restarts hs]
          decide
        rw [step_of_restarts hs, trigger_runs h, hstopped, List.append_nil, List.append_assoc]
        simp [hs]
      · have hkept : pending extensions l (s :: rest) = pending extensions l rest := by
          simp only [pending, fate_of_idle hs]
        rw [step_of_idle hs, hkept]
        simp [restarts_of_idle hs]

theorem single_follow (h : l.debouncer.Single) (signals : List Signal) :
    (l.follow extensions outcome signals).1.debouncer.Single := by
  induction signals generalizing l with
  | nil => exact h
  | cons s rest ih => exact ih (single_step h s)

/-- Changes that do not matter leave everything as it is. -/
theorem follow_filter (signals : List Signal) :
    (l.follow extensions outcome (signals.filter (·.matters extensions))).1 =
      (l.follow extensions outcome signals).1 := by
  induction signals generalizing l with
  | nil => rfl
  | cons s rest ih =>
      by_cases hs : s.matters extensions = true
      · rw [List.filter_cons_of_pos hs]
        exact ih
      · rw [List.filter_cons_of_neg hs]
        refine ih.trans ?_
        show _ = ((l.step extensions outcome s).1.follow extensions outcome rest).1
        rw [step_of_idle (Bool.not_eq_true _ ▸ hs)]

/-! ## Bursts -/

theorem callbacks_append (signals burst : List Signal) :
    callbacks extensions delay after now (signals ++ burst) =
      callbacks extensions delay (burst ++ after) now signals ++
        callbacks extensions delay after (now + elapsed signals) burst := by
  induction signals generalizing now with
  | nil => simp [callbacks, elapsed]
  | cons s rest ih =>
      rw [List.cons_append, callbacks, callbacks, ih, elapsed_cons, List.append_assoc,
        List.append_assoc, Int.natCast_add, Int.add_assoc]

/-- Signals that stop no timer set none. -/
theorem callbacks_of_waiting (h : fate extensions due now signals = .waiting) :
    callbacks extensions delay after now signals = [] := by
  induction signals generalizing now with
  | nil => rfl
  | cons s rest ih =>
      rw [callbacks]
      rcases s.kinds extensions with ⟨time, rfl⟩ | rfl | hs | hs
      · rw [fate_advance] at h
        split at h
        · cases h
        · simpa [Signal.restarts, Signal.span] using ih h
      · cases h
      · cases (fate_of_restarts hs).symm.trans h
      · rw [fate_of_idle hs] at h
        simpa [restarts_of_idle hs, span_of_idle hs] using ih h

/-- A burst that begins at `now`: it ends with the signal at `last`, and every timer before that one
    is still running when the next signal sets it anew. -/
inductive Burst (extensions : List Text) (delay : Int) : Int → List Signal → Int → Prop
  | single {now : Int} {s : Signal} (hs : s.restarts extensions = true) :
      Burst extensions delay now [s] now
  | more {now last : Int} {s : Signal} {quiet rest : List Signal}
      (hs : s.restarts extensions = true)
      (hquiet : fate extensions (now + delay) now quiet = .waiting)
      (hrest : Burst extensions delay (now + elapsed quiet) rest last) :
      Burst extensions delay now (s :: (quiet ++ rest)) last

theorem Burst.fate_eq (h : Burst extensions delay now burst last) :
    fate extensions due now (burst ++ after) = .restarted := by
  cases h with
  | single hs => exact fate_of_restarts hs
  | more hs => exact fate_of_restarts hs

/-- Of a burst, only the last signal can bring about a callback. -/
theorem Burst.callbacks_eq (h : Burst extensions delay now burst last) :
    callbacks extensions delay after now burst =
      if fate extensions (last + delay) last after = .ranOut then [last + delay] else [] := by
  induction h with
  | single hs => simp [callbacks, hs]
  | @more now last s quiet rest hs hquiet hrest ih =>
      have hrestarted :
          fate extensions (now + delay) now (quiet ++ rest ++ after) = .restarted := by
        rw [List.append_assoc, fate_append hquiet, hrest.fate_eq]
      rw [callbacks, hrestarted, callbacks_append, span_of_restarts hs]
      simp [callbacks_of_waiting hquiet, ih]

theorem Burst.elapsed_eq (h : Burst extensions delay now burst last) :
    now + elapsed burst = last := by
  induction h with
  | single hs => simp [elapsed, span_of_restarts hs]
  | more hs _ _ ih =>
      rw [elapsed_cons, elapsed_append, span_of_restarts hs]
      omega

/-! ## Whole sequences -/

theorem mem_callbacks_iff {time : Int} :
    time ∈ callbacks extensions delay after now signals ↔
      ∃ (before : List Signal) (s : Signal) (rest : List Signal),
        signals = before ++ s :: rest ∧ s.restarts extensions = true ∧
        time = now + elapsed before + delay ∧
        fate extensions time (now + elapsed before) (rest ++ after) = .ranOut := by
  constructor
  · intro h
    induction signals generalizing now with
    | nil => cases h
    | cons s rest ih =>
        rcases List.mem_append.1 h with hown | hlater
        · split at hown
          next hs =>
            obtain rfl := List.mem_singleton.1 hown
            exact ⟨[], s, rest, rfl, hs.1, by simp [elapsed], by simpa [elapsed] using hs.2⟩
          next => cases hown
        · obtain ⟨before, s', rest', rfl, hs', htime, hfate⟩ := ih hlater
          refine ⟨s :: before, s', rest', rfl, hs', ?_⟩
          rw [elapsed_cons, Int.natCast_add, ← Int.add_assoc]
          exact ⟨htime, hfate⟩
  · rintro ⟨before, s, rest, rfl, hs, rfl, hfate⟩
    rw [callbacks_append, callbacks, if_pos ⟨hs, hfate⟩]
    simp

theorem follow_outcome (outcome' : Nat → Option Text) (signals : List Signal) :
    (l.follow extensions outcome' signals).1 = (l.follow extensions outcome signals).1 := by
  induction signals generalizing l with
  | nil => rfl
  | cons s rest ih =>
      have hstep : (l.step extensions outcome' s).1 = (l.step extensions outcome s).1 := by
        rcases s.kinds extensions with ⟨time, rfl⟩ | rfl | hs | hs
        · rfl
        · rfl
        · rw [step_of_restarts hs, step_of_restarts hs]
        · rw [step_of_idle hs, step_of_idle hs]
      show ((l.step extensions outcome' s).1.follow extensions outcome' rest).1 = _
      rw [hstep]
      exact ih

/-- A debouncer on its clock after some signals. -/
def told (extensions : List Text) (outcome : Nat → Option Text) (delay : Int)
    (signals : List Signal) : Timeline :=
  ((Timeline.start delay).follow extensions outcome signals).1

/-- When the callback runs, and when it does not. -/
structure Debounced (extensions : List Text) (outcome : Nat → Option Text) (delay : Int)
    (signals : List Signal) : Prop where
  /-- It runs once for each signal whose timer runs out, in the order of the signals. -/
  runs : (told extensions outcome delay signals).runs = callbacks extensions delay [] 0 signals
  /-- It runs at `t + delay` if a signal set the timer at `t`, and none stopped it before time had
      passed up to `t + delay`. -/
  times : ∀ time : Int, time ∈ (told extensions outcome delay signals).runs ↔
    ∃ (before : List Signal) (s : Signal) (quiet : List Signal) (wait : Nat) (rest : List Signal),
      signals = before ++ s :: (quiet ++ .advance wait :: rest) ∧ s.restarts extensions = true ∧
      time = elapsed before + delay ∧ (∀ s ∈ quiet, s.stops extensions = false) ∧
      time ≤ elapsed before + elapsed quiet + wait
  /-- No two timers are ever running. -/
  single : (told extensions outcome delay signals).debouncer.running.length ≤ 1
  /-- A burst has one callback if the timer of its last signal runs out. It has none if that timer
      is dropped, is set anew by a further change, or is still running. -/
  bursts : ∀ (before burst after : List Signal) (last : Int),
    signals = before ++ (burst ++ after) →
    Burst extensions delay (elapsed before) burst last →
    (told extensions outcome delay signals).runs =
      callbacks extensions delay (burst ++ after) 0 before ++
        (if fate extensions (last + delay) last after = .ranOut then [last + delay] else []) ++
        callbacks extensions delay [] last after
  /-- It makes no difference whether callbacks fail. -/
  failures : ∀ outcome' : Nat → Option Text,
    told extensions outcome' delay signals = told extensions outcome delay signals
  /-- Changes that do not matter make no difference. -/
  irrelevant : told extensions outcome delay (signals.filter (·.matters extensions)) =
    told extensions outcome delay signals

theorem runs_told (extensions : List Text) (outcome : Nat → Option Text) (delay : Int)
    (signals : List Signal) :
    (told extensions outcome delay signals).runs = callbacks extensions delay [] 0 signals :=
  runs_follow (Debouncer.single_idle delay) signals

/-- **The callback runs once for each burst of changes, a fixed delay after its last one.** This
    holds for every sequence of signals, whether callbacks fail or not: a change that matters sets
    the timer anew, and the callback runs for the timers that are not stopped in time. -/
theorem debounced_told (extensions : List Text) (outcome : Nat → Option Text) (delay : Int)
    (signals : List Signal) : Debounced extensions outcome delay signals where
  runs := runs_told extensions outcome delay signals
  times time := by
    rw [runs_told, mem_callbacks_iff]
    constructor
    · rintro ⟨before, s, rest, rfl, hs, htime, hfate⟩
      rw [List.append_nil] at hfate
      obtain ⟨quiet, wait, rest', rfl, hquiet, hdue⟩ := exists_quiet_of_fate hfate
      rw [Int.zero_add] at htime hdue
      exact ⟨before, s, quiet, wait, rest', rfl, hs, htime, hquiet, hdue⟩
    · rintro ⟨before, s, quiet, wait, rest, rfl, hs, htime, hquiet, hdue⟩
      refine ⟨before, s, _, rfl, hs, by rwa [Int.zero_add], ?_⟩
      rw [List.append_nil, Int.zero_add]
      exact fate_eq_ranOut hquiet hdue
  single := (single_follow (Debouncer.single_idle delay) signals).length_le
  bursts before burst after last hsignals hburst := by
    subst hsignals
    rw [runs_told, callbacks_append, callbacks_append, List.append_nil, Int.zero_add,
      List.append_nil, hburst.elapsed_eq, hburst.callbacks_eq, List.append_assoc]
  failures outcome' := follow_outcome outcome' signals
  irrelevant := follow_filter signals

/-- The second change continues the burst, the third one begins another, and the last is dropped. -/
example : (told [".vyu".toList] (fun _ => some "failed".toList) 100
    [.trigger, .advance 60, .change ⟨.modified, false, "a.vyu", []⟩, .advance 100, .trigger,
      .change ⟨.moved, false, "a.vyu", "a.txt"⟩, .advance 100, .trigger, .cancel]).runs =
    [160, 260] := by
  decide +kernel

end Watch
end PageLoom
