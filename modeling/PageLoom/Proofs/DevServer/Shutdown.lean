import PageLoom.DevServer.Lifecycle
import Mathlib.Data.List.Basic

set_option autoImplicit false

/-! # What was started is stopped

A start may fail anywhere, and each time leaves something else behind. Whom a part of a start leaves
is said once (`Accounts`), and parts compose. A stop goes by whom it finds, so it takes those steps
of one fixed order that they need, and no other; it is done once, however often it is asked for. -/

namespace PageLoom

/-- Whom a dev server starts and stops. -/
inductive Collaborator where
  | bundler
  | watcher
  | listener
  deriving DecidableEq, Repr

/-- Whom a call starts. -/
def ServerCall.starts? : ServerCall → Option Collaborator
  | startBundler => some .bundler
  | startWatcher => some .watcher
  | listen _ _ => some .listener
  | _ => none

/-- The step of a stop that makes a call. -/
def ServerCall.step? : ServerCall → Option DevServer.StopStep
  | shutdown => some .shutdown
  | stopWatcher => some .stopWatcher
  | stopBundler _ => some .stopBundler
  | drain _ _ => some .drain
  | closeListener => some .closeListener
  | _ => none

namespace ServerTrace

/-- Whether somebody is asked to start. -/
def asks (trace : ServerTrace) (c : Collaborator) : Bool :=
  trace.calls.any fun call => call.starts? = some c

@[simp] theorem calls_append (s t : ServerTrace) : (s ++ t).calls = s.calls ++ t.calls := rfl

@[simp] theorem calls_ofCalls (calls : List ServerCall) : (ofCalls calls).calls = calls := rfl

@[simp] theorem calls_none : none.calls = [] := rfl

theorem asks_append (s t : ServerTrace) (c : Collaborator) :
    (s ++ t).asks c = (s.asks c || t.asks c) := by
  unfold asks
  rw [calls_append, List.any_append]

end ServerTrace

namespace Surroundings

/-- Why somebody who is asked to start does not come up, if so. -/
def fault? (around : Surroundings) : Collaborator → Option Text
  | .bundler => around.bundlerFault
  | .watcher => around.watcherFault
  | .listener => around.listenerFault

end Surroundings

namespace DevServer

variable {around : Surroundings} {s s' : DevServer}

/-- Whether a dev server has somebody to stop. -/
def holds (s : DevServer) : Collaborator → Bool
  | .bundler => s.bundler
  | .watcher => s.watcher
  | .listener => s.listener.isSome

/-! ## Starting -/

/-- Whether somebody stays who was asked to start: a watcher does even if he failed. -/
def stays (around : Surroundings) (c : Collaborator) : Bool :=
  c = .watcher || (around.fault? c).isNone

/-- What a part of a start leaves: those stay whom it asked to start, and nobody is stopped. -/
structure Accounts (around : Surroundings) (s s' : DevServer) (trace : ServerTrace) : Prop where
  held : ∀ c, s'.holds c = if trace.asks c then stays around c else s.holds c
  stops : ∀ call ∈ trace.calls, call.step? = none
  settings : s'.site.settings = s.site.settings
  stopped : s'.stopped = s.stopped

theorem Accounts.trans {s'' : DevServer} {trace rest : ServerTrace}
    (h : Accounts around s s' trace) (hrest : Accounts around s' s'' rest) :
    Accounts around s s'' (trace ++ rest) where
  held c := by
    rw [hrest.held, h.held, ServerTrace.asks_append]
    cases trace.asks c <;> cases rest.asks c <;> rfl
  stops call hcall := by
    rcases List.mem_append.1 hcall with hcall | hcall
    · exact h.stops call hcall
    · exact hrest.stops call hcall
  settings := hrest.settings.trans h.settings
  stopped := hrest.stopped.trans h.stopped

theorem Accounts.andThen
    {first second : DevServer → DevServer × ServerTrace × Except StartFault Unit}
    (hfirst : Accounts around s (first s).1 (first s).2.1)
    (hsecond : Accounts around (first s).1 (second (first s).1).1 (second (first s).1).2.1) :
    Accounts around s (andThen first second s).1 (andThen first second s).2.1 := by
  unfold DevServer.andThen
  rcases hrun : first s with ⟨s', trace, fault | _⟩ <;> rw [hrun] at hfirst hsecond
  · exact hfirst
  · exact hfirst.trans hsecond

theorem accounts_startBundler (around : Surroundings) (s : DevServer) :
    Accounts around s (s.startBundler around).1 (s.startBundler around).2.1 := by
  unfold startBundler
  cases s.bundlerDir with
  | none => exact ⟨fun _ => rfl, nofun, rfl, rfl⟩
  | some directory =>
      cases around.installFault with
      | some report =>
          refine ⟨fun c => ?_, by simp [ServerCall.step?], rfl, rfl⟩
          cases c <;> rfl
      | none =>
          cases hfault : around.bundlerFault <;>
            refine ⟨fun c => ?_, by simp [ServerCall.step?], rfl, rfl⟩ <;>
            cases c <;> simp [ServerTrace.asks, ServerCall.starts?, holds, stays,
              Surroundings.fault?, hfault]

theorem accounts_startWatcher (around : Surroundings) (s : DevServer) :
    Accounts around s (s.startWatcher around).1 (s.startWatcher around).2.1 := by
  unfold startWatcher
  refine ⟨fun c => ?_, by simp [ServerCall.step?], rfl, rfl⟩
  cases c <;> rfl

/-- Who fails to listen has no listener, if he had none before. -/
theorem accounts_startListener (hnone : s.listener = none) :
    Accounts around s (s.startListener around).1 (s.startListener around).2.1 := by
  unfold startListener
  cases hfault : around.listenerFault <;>
    refine ⟨fun c => ?_, by simp [ServerCall.step?], rfl, rfl⟩ <;>
    cases c <;> simp [ServerTrace.asks, ServerCall.starts?, holds, stays, Surroundings.fault?,
      hfault, hnone]

theorem listener_startBundler (around : Surroundings) (s : DevServer) :
    (s.startBundler around).1.listener = s.listener := by
  unfold startBundler
  split
  · rfl
  · split
    · rfl
    · dsimp only
      split <;> rfl

theorem accounts_start (around : Surroundings) (hnone : s.listener = none) :
    Accounts around s (s.start around).1 (s.start around).2.1 := by
  refine (accounts_startBundler around s).andThen ?_
  refine (accounts_startWatcher around _).andThen ?_
  exact accounts_startListener ((listener_startBundler around s).trans hnone)

/-- Whether a start gets so far as to ask somebody: a failed install is the end of it, and so is a
    watcher that fails. -/
def reaches (s : DevServer) (around : Surroundings) : Collaborator → Bool
  | .bundler => s.bundlerDir.isSome && around.installFault.isNone
  | .watcher => s.bundlerDir.isNone || around.installFault.isNone
  | .listener => (s.bundlerDir.isNone || around.installFault.isNone) && around.watcherFault.isNone

theorem asks_start (around : Surroundings) (s : DevServer) (c : Collaborator) :
    (s.start around).2.1.asks c = s.reaches around c := by
  unfold start andThen startBundler startWatcher startListener reaches
  -- whether there is a project, and whether each part of the start fails
  cases s.bundlerDir <;> cases around.installFault <;> cases around.bundlerFault <;>
    cases around.watcherFault <;> cases around.listenerFault <;> cases c <;> rfl

/-! ## Stopping -/

namespace StopStep

/-- Whom a step is about. -/
def concerns : StopStep → Collaborator
  | stopWatcher => .watcher
  | stopBundler => .bundler
  | shutdown | endStreams | drain | closeListener | joinListener => .listener

/-- The one order in which steps are taken. -/
def order : List StopStep :=
  [shutdown, stopWatcher, stopBundler, endStreams, drain, closeListener, joinListener]

/-- The call that a step makes: requests are waited for when streams were told to end. -/
def call? (settings : Settings) : StopStep → Option ServerCall
  | shutdown => some .shutdown
  | stopWatcher => some .stopWatcher
  | stopBundler => some (.stopBundler settings.bundlerGrace)
  | drain => some (.drain settings.shutdownGrace true)
  | closeListener => some .closeListener
  | endStreams | joinListener => none

theorem count_order (step : StopStep) : order.count step = 1 := by
  cases step <;> rfl

theorem step?_of_call? {settings : Settings} {step : StopStep} {call : ServerCall}
    (h : step.call? settings = some call) : call.step? = some step := by
  cases step <;> cases h <;> rfl

/-- How often calls come from a step. -/
def taken (step : StopStep) (calls : List ServerCall) : ℕ :=
  calls.countP fun call => call.step? = some step

/-- Of the calls that some steps make, each step that makes one has its own. -/
theorem taken_filterMap {settings : Settings} {step : StopStep}
    (hcall : (step.call? settings).isSome) (steps : List StopStep) :
    taken step (steps.filterMap (call? settings)) = steps.count step := by
  unfold taken
  induction steps with
  | nil => rfl
  | cons x rest ih =>
      rw [List.filterMap_cons]
      cases hx : x.call? settings with
      | none =>
          have hne : x ≠ step := by
            rintro rfl
            rw [hx] at hcall
            cases hcall
          rw [List.count_cons_of_ne hne]
          exact ih
      | some call =>
          dsimp only
          rw [List.countP_cons, List.count_cons, ih, step?_of_call? hx]
          simp

/-- A step without a call is behind none. -/
theorem taken_eq_zero {settings : Settings} {step : StopStep}
    (hcall : step.call? settings = none) (calls : List ServerCall) : taken step calls = 0 := by
  refine List.countP_eq_zero.2 fun call _ => ?_
  cases step <;> cases hcall <;> cases call <;> simp [ServerCall.step?]

end StopStep

theorem stopSteps_eq (s : DevServer) :
    s.stopSteps = StopStep.order.filter fun step => s.holds step.concerns := by
  unfold stopSteps StopStep.order
  simp only [List.filter_cons, StopStep.concerns, holds]
  cases s.listener.isSome <;> cases s.watcher <;> cases s.bundler <;> rfl

theorem mem_stopSteps {step : StopStep} : step ∈ s.stopSteps ↔ s.holds step.concerns = true := by
  rw [stopSteps_eq, List.mem_filter]
  exact and_iff_right (List.count_pos_iff.1 (by rw [StopStep.count_order]; exact Nat.one_pos))

theorem count_stopSteps (s : DevServer) (step : StopStep) :
    s.stopSteps.count step = if s.holds step.concerns then 1 else 0 := by
  split
  · next h =>
      rw [stopSteps_eq, ← StopStep.count_order step]
      exact List.count_filter h
  · next h => exact List.count_eq_zero.2 (mt mem_stopSteps.1 h)

/-- Whether open streams were told to end. -/
def ending (s : DevServer) : Bool := s.listener.any (·.closing)

theorem endStreams_mem_of_stopSteps_eq {before after : List StopStep}
    (h : s.stopSteps = before ++ .drain :: after) : s.listener.isSome ∧ .endStreams ∈ before := by
  -- both steps concern the listener, so one is taken only with the other
  have hdrain : StopStep.drain ∈ s.stopSteps := by simp [h]
  have hsome : s.listener.isSome := mem_stopSteps.1 hdrain
  have hend : StopStep.endStreams ∈ s.stopSteps := mem_stopSteps.2 hsome
  have horder : s.stopSteps.Pairwise fun x y => x = .drain → y ≠ .endStreams := by
    rw [stopSteps_eq]
    exact List.Pairwise.filter _ (by decide)
  rw [h] at hend horder
  rcases List.mem_append.1 hend with hbefore | hafter
  · exact ⟨hsome, hbefore⟩
  · -- behind the drain it would be out of order
    obtain ⟨hrest, -⟩ := List.pairwise_cons.1 (List.pairwise_append.1 horder).2.1
    rcases List.mem_cons.1 hafter with heq | hafter
    · cases heq
    · exact absurd rfl (hrest _ hafter rfl)

theorem site_perform (around : Surroundings) (s : DevServer) (step : StopStep) :
    (s.perform around step).1.site = s.site := by
  cases step <;> rfl

theorem isSome_listener_perform (around : Surroundings) (s : DevServer) (step : StopStep) :
    (s.perform around step).1.listener.isSome = s.listener.isSome := by
  cases step <;> try rfl
  case endStreams => exact Option.isSome_map

theorem ending_endStreams (hsome : s.listener.isSome) (around : Surroundings) :
    (s.perform around .endStreams).1.ending = true := by
  show (s.listener.map _).any _ = true
  obtain ⟨l, hl⟩ := Option.isSome_iff_exists.1 hsome
  rw [hl]
  rfl

/-- Who told streams to end does not take it back. -/
theorem ending_perform (hsome : s.listener.isSome) (hending : s.ending = true)
    (step : StopStep) : (s.perform around step).1.ending = true := by
  cases step <;> try exact hending
  case endStreams => exact ending_endStreams hsome around

theorem calls_perform {step : StopStep} (h : step = .drain → s.ending = true) :
    (s.perform around step).2.calls = (step.call? s.site.settings).toList := by
  cases step <;> try rfl
  case drain => exact congrArg (fun told => [ServerCall.drain _ told]) (h rfl)

theorem performAll_cons (around : Surroundings) (s : DevServer) (step : StopStep)
    (rest : List StopStep) : s.performAll around (step :: rest) =
      (((s.perform around step).1.performAll around rest).1,
        (s.perform around step).2 ++ ((s.perform around step).1.performAll around rest).2) :=
  rfl

theorem ending_performAll {steps : List StopStep} (hsome : s.listener.isSome)
    (h : s.ending = true ∨ .endStreams ∈ steps) : (s.performAll around steps).1.ending = true := by
  induction steps generalizing s with
  | nil => exact h.resolve_right (List.not_mem_nil)
  | cons step rest ih =>
      rw [performAll_cons]
      refine ih ((isSome_listener_perform around s step).trans hsome) ?_
      rcases h with h | h
      · exact .inl (ending_perform hsome h step)
      · rcases List.mem_cons.1 h with rfl | h
        · exact .inl (ending_endStreams hsome around)
        · exact .inr h

/-- Steps make their calls, if streams were told to end whenever requests are waited for. -/
theorem calls_performAll {steps : List StopStep} (h : ∀ before after,
      steps = before ++ .drain :: after → (s.performAll around before).1.ending = true) :
    (s.performAll around steps).2.calls = steps.filterMap (StopStep.call? s.site.settings) := by
  induction steps generalizing s with
  | nil => rfl
  | cons step rest ih =>
      -- `h` for no steps before is about this step, and for `step :: before` about the others
      have hfirst : (s.perform around step).2.calls = (step.call? s.site.settings).toList := by
        refine calls_perform fun hdrain => ?_
        exact h [] rest (by rw [hdrain, List.nil_append])
      have hrest := ih (s := (s.perform around step).1) fun before after heq => by
        have hbefore := h (step :: before) after (by rw [heq, List.cons_append])
        rwa [performAll_cons] at hbefore
      rw [performAll_cons, ServerTrace.calls_append, hfirst, hrest, site_perform,
        List.filterMap_cons]
      cases step.call? s.site.settings <;> rfl

/-- What a stop calls does not depend on whether requests finish. -/
theorem calls_stop (hopen : s.stopped = false) (around : Surroundings) :
    (s.stop around).2.calls = s.stopSteps.filterMap (StopStep.call? s.site.settings) := by
  have hcalls : (s.performAll around s.stopSteps).2.calls =
      s.stopSteps.filterMap (StopStep.call? s.site.settings) :=
    calls_performAll fun before after heq => by
      obtain ⟨hsome, hend⟩ := endStreams_mem_of_stopSteps_eq heq
      exact ending_performAll hsome (.inr hend)
  unfold stop
  rw [if_neg (by simp [hopen])]
  exact (List.append_nil _).trans hcalls

theorem stop_of_stopped (hstopped : s.stopped = true) (around : Surroundings) :
    s.stop around = (s, .none) := by
  unfold stop
  rw [if_pos hstopped]

theorem stopped_stop (around : Surroundings) (s : DevServer) :
    (s.stop around).1.stopped = true := by
  unfold stop
  split
  · next h => exact h
  · rfl

/-- Stops one after the other, and what each does. -/
def stops : DevServer → List Surroundings → DevServer × List ServerTrace
  | s, [] => (s, [])
  | s, around :: rest =>
      let (s, trace) := s.stop around
      let (s, traces) := s.stops rest
      (s, trace :: traces)

theorem stops_of_stopped (hstopped : s.stopped = true) (later : List Surroundings) :
    s.stops later = (s, later.map fun _ => .none) := by
  induction later with
  | nil => rfl
  | cons around rest ih =>
      unfold stops
      rw [stop_of_stopped hstopped]
      dsimp only
      rw [ih]
      rfl

theorem stops_cons (s : DevServer) (first : Surroundings) (later : List Surroundings) :
    s.stops (first :: later) =
      ((s.stop first).1, (s.stop first).2 :: later.map fun _ => .none) := by
  show (((s.stop first).1.stops later).1, (s.stop first).2 :: ((s.stop first).1.stops later).2) = _
  rw [stops_of_stopped (stopped_stop first s)]

/-! ## A start and the stops after it -/

/-- Whether somebody came up in a start. -/
def cameUp (s : DevServer) (around : Surroundings) (c : Collaborator) : Bool :=
  s.reaches around c && (around.fault? c).isNone

/-- All calls of a start and of the stops after it. -/
def callsOver (s : DevServer) (around : Surroundings) (after : List Surroundings) :
    List ServerCall :=
  (s.start around).2.1.calls ++ ((s.start around).1.stops after).2.flatMap (·.calls)

/-- How a start, a first stop and any later stops go together. -/
structure Dismissed (s : DevServer) (around first : Surroundings) (later : List Surroundings) :
    Prop where
  asked : ∀ c, (s.start around).2.1.asks c = s.reaches around c
  /-- Steps are taken in the one order, each if there is whom it concerns. -/
  order : (s.start around).1.stopSteps = StopStep.order.filter fun step =>
    s.reaches around step.concerns && stays around step.concerns
  /-- Each makes its call, whether or not requests finish in time; these are waited for after
      streams were told to end. -/
  calls : ((s.start around).1.stop first).2.calls =
    (s.start around).1.stopSteps.filterMap (StopStep.call? s.site.settings)
  /-- Who came up is stopped exactly once, by each step that concerns him. -/
  once : ∀ c, s.cameUp around c = true → ∀ step : StopStep, step.concerns = c →
    (step.call? s.site.settings).isSome →
      StopStep.taken step (s.callsOver around (first :: later)) = 1
  /-- Nobody else is stopped or waited for, unless he is a watcher. -/
  spared : ∀ c, c ≠ .watcher → s.cameUp around c = false → ∀ step : StopStep, step.concerns = c →
    step ∉ (s.start around).1.stopSteps ∧
      StopStep.taken step (s.callsOver around (first :: later)) = 0
  /-- Later stops do nothing. -/
  further : (s.start around).1.stops (first :: later) =
    (((s.start around).1.stop first).1,
      ((s.start around).1.stop first).2 :: later.map fun _ => .none)

section
variable (hnobody : ∀ c, s.holds c = false) (hopen : s.stopped = false)
include hnobody

theorem accounts_start_of_nobody (around : Surroundings) :
    Accounts around s (s.start around).1 (s.start around).2.1 := by
  have hnone : s.listener.isSome = false := hnobody .listener
  rw [Option.isSome_eq_false_iff, Option.isNone_iff_eq_none] at hnone
  exact accounts_start around hnone

theorem holds_start (around : Surroundings) (c : Collaborator) :
    (s.start around).1.holds c = (s.reaches around c && stays around c) := by
  rw [(accounts_start_of_nobody hnobody around).held, hnobody, asks_start]
  cases s.reaches around c <;> rfl

include hopen

theorem calls_stop_start (around first : Surroundings) :
    ((s.start around).1.stop first).2.calls =
      (s.start around).1.stopSteps.filterMap (StopStep.call? s.site.settings) := by
  have hstart := accounts_start_of_nobody hnobody around
  rw [calls_stop (hstart.stopped.trans hopen), hstart.settings]

theorem taken_callsOver (around first : Surroundings) (later : List Surroundings)
    {step : StopStep} (hcall : (step.call? s.site.settings).isSome) :
    StopStep.taken step (s.callsOver around (first :: later)) =
      (s.start around).1.stopSteps.count step := by
  have hstart := accounts_start_of_nobody hnobody around
  have hbefore : StopStep.taken step (s.start around).2.1.calls = 0 := by
    refine List.countP_eq_zero.2 fun call hmem => ?_
    simp [hstart.stops call hmem]
  have hlater : (later.map fun _ => ServerTrace.none).flatMap (·.calls) = [] := by
    rw [List.flatMap_map]
    exact List.flatMap_eq_nil_iff.2 fun _ _ => rfl
  calc StopStep.taken step (s.callsOver around (first :: later))
      = StopStep.taken step (s.start around).2.1.calls +
          StopStep.taken step ((s.start around).1.stop first).2.calls := by
        unfold callsOver StopStep.taken
        rw [stops_cons, List.flatMap_cons, hlater, List.append_nil, List.countP_append]
    _ = (s.start around).1.stopSteps.count step := by
        rw [hbefore, Nat.zero_add, calls_stop_start hnobody hopen,
          StopStep.taken_filterMap hcall]

theorem dismissed_of_nobody (around first : Surroundings) (later : List Surroundings) :
    s.Dismissed around first later where
  asked := asks_start around s
  order := by
    rw [stopSteps_eq]
    simp only [holds_start hnobody]
  calls := calls_stop_start hnobody hopen around first
  once := by
    rintro _ hup step rfl hcall
    obtain ⟨hreached, hcame⟩ := Bool.and_eq_true_iff.1 hup
    rw [taken_callsOver hnobody hopen around first later hcall, count_stopSteps,
      holds_start hnobody, hreached, stays, hcame, Bool.or_true]
    rfl
  spared := by
    rintro _ hwatcher hdown step rfl
    have hgone : (s.start around).1.holds step.concerns = false := by
      rw [holds_start hnobody, stays, decide_eq_false hwatcher]
      exact hdown
    refine ⟨mt mem_stopSteps.1 (by simp [hgone]), ?_⟩
    cases hcall : step.call? s.site.settings with
    | none => exact StopStep.taken_eq_zero hcall _
    | some call =>
        rw [taken_callsOver hnobody hopen around first later (by simp [hcall]),
          count_stopSteps, hgone]
        rfl
  further := stops_cons _ first later

end

/-- **Whatever came up is stopped once, in one order, and nothing else is.** This holds of a new
    server, wherever its one start fails, and however often it is stopped. -/
theorem dismissed_make (settings : Settings) (site : Text) (bundlerDir host : Option Text)
    (port : Option Int) (bundlerUrl : Option Text) (around first : Surroundings)
    (later : List Surroundings) :
    (make settings site bundlerDir host port bundlerUrl).Dismissed around first later :=
  dismissed_of_nobody (fun c => by cases c <;> rfl) rfl around first later

/-- A watcher that fails ends the start, and is stopped with the bundler's server. -/
example (settings : Settings) (site directory report : Text) :
    ((make settings site (some directory) none none none).start
      { watcherFault := some report, freePort := 80 }).1.stopSteps = [.stopWatcher, .stopBundler] :=
  rfl

end DevServer
end PageLoom
