import PageLoom.Bundler.DevProcess
import Mathlib.Data.List.Basic

set_option autoImplicit false

/-! # No process is left behind

Processes end at any time, take signals as they will, and are held one at a time. A process that is
alive is the one that is held (`DevServerProcess.Custody`): a start leaves an old process only when
it has ended, and a stop lets go of a process but sees to its end before it is over. -/

namespace PageLoom

/-- Nobody goes on after being killed. -/
theorem Temper.reaction_kill_ne (t : Temper) : t.reaction .kill ≠ .goesOn := by
  cases t <;> exact nofun

/-- The signal that a call sends. -/
def ProcessCall.signal? : ProcessCall → Option ProcessSignal
  | signalGroup which | signalOne which => some which
  | _ => none

namespace DevServerProcess

variable {s : DevServerProcess} {i j : ℕ} {which : ProcessSignal} {grace : Quantity}

/-! ## Who is alive -/

theorem isAlive_modify (s : DevServerProcess) (i : ℕ) (f : DevProcess → DevProcess) (j : ℕ) :
    (s.modify i f).isAlive j =
      if j = i then s.processes[i]?.any (fun p => (f p).alive) else s.isAlive j := by
  unfold isAlive modify
  rw [List.getElem?_modify]
  by_cases hj : j = i
  · subst hj
    rw [if_pos rfl]
    cases s.processes[j]? <;> simp
  · rw [if_neg hj]
    have hne : i ≠ j := fun h => hj h.symm
    cases s.processes[j]? <;> simp [hne]

theorem isAlive_ended (s : DevServerProcess) (i j : ℕ) :
    (s.ended i).isAlive j = (decide (j ≠ i) && s.isAlive j) := by
  unfold ended
  rw [isAlive_modify]
  by_cases hj : j = i
  · rw [if_pos hj]
    cases s.processes[i]? <;> simp [hj]
  · rw [if_neg hj]
    simp [hj]

/-- A signal is felt by the process that it is for. -/
theorem isAlive_signalled_of_ne (hj : j ≠ i) :
    (s.signalled i which).isAlive j = s.isAlive j := by
  unfold signalled
  rw [isAlive_modify, if_neg hj]

theorem not_isAlive_killed (s : DevServerProcess) (i : ℕ) :
    (s.signalled i .kill).isAlive i = false := by
  unfold signalled
  rw [isAlive_modify, if_pos rfl]
  cases s.processes[i]? with
  | none => rfl
  | some p => simp [DevProcess.signalled, p.temper.reaction_kill_ne]

@[simp] theorem isAlive_release (s : DevServerProcess) (i : ℕ) :
    s.release.isAlive i = s.isAlive i :=
  rfl

/-- A process that was just started is alive, and the others are as they were. -/
theorem isAlive_spawned (s : DevServerProcess) (temper : Temper) (held : Option ℕ) (i : ℕ) :
    isAlive { s with processes := s.processes ++ [⟨true, temper⟩], held := held } i =
      (s.isAlive i || decide (i = s.processes.length)) := by
  unfold isAlive
  show (s.processes ++ [⟨true, temper⟩])[i]?.any _ = _
  rcases Nat.lt_trichotomy i s.processes.length with hlt | rfl | hgt
  · have hne : i ≠ s.processes.length := by omega
    rw [List.getElem?_append_left hlt]
    simp [hne]
  · simp
  · have hne : i ≠ s.processes.length := by omega
    rw [List.getElem?_eq_none (by simp; omega), List.getElem?_eq_none (by omega)]
    simp [hne]

theorem live?_eq_some_iff : s.live? = some i ↔ s.held = some i ∧ s.isAlive i = true := by
  unfold live?
  rw [Option.filter_eq_some_iff]

theorem running_eq_false_iff : s.running = false ↔ s.live? = none := by
  unfold running
  rw [Option.isSome_eq_false_iff, Option.isNone_iff_eq_none]

/-! ## What a start and a stop do -/

theorem start_of_running (hrunning : s.running = true) (temper : Option Temper) :
    s.start temper = (s, ⟨[], [], none⟩, .ok ()) := by
  unfold start
  rw [if_pos hrunning]

theorem start_of_failed (hidle : s.running = false) :
    s.start none = (s, ⟨[.spawn s.directory s.groups], [], none⟩, .error spawnReport) := by
  unfold start
  rw [if_neg (by simp [hidle])]

theorem start_of_spawned (hidle : s.running = false) (temper : Temper) :
    (s.start (some temper)).1 =
      { s with processes := s.processes ++ [⟨true, temper⟩], held := some s.processes.length } := by
  unfold start
  rw [if_neg (by simp [hidle])]

/-- Whether a process goes on after it was asked to end, until its time is over. -/
def outlasts (s : DevServerProcess) (i : ℕ) : Bool := (s.signalled i .interrupt).isAlive i

theorem stop_of_idle (hidle : s.live? = none) (grace : Quantity) :
    s.stop grace = (s.release, ⟨[], [], none⟩) := by
  unfold stop
  rw [hidle]

theorem stop_of_obeyed (hlive : s.live? = some i) (hends : s.outlasts i = false)
    (grace : Quantity) :
    s.stop grace = (s.release.signalled i .interrupt,
      ⟨[s.signal .interrupt, .wait (some grace)], [.debug 2 "Vite dev server stopped"], some i⟩) := by
  unfold stop
  rw [hlive]
  exact if_neg (Bool.eq_false_iff.1 hends)

theorem stop_of_outlasted (hlive : s.live? = some i) (hgoesOn : s.outlasts i = true)
    (grace : Quantity) :
    s.stop grace = ((s.release.signalled i .interrupt).signalled i .kill,
      ⟨[s.signal .interrupt, .wait (some grace), s.signal .kill, .wait none],
        [.warning "Vite dev server did not exit in time, killing it"], some i⟩) := by
  unfold stop
  rw [hlive]
  exact if_pos hgoesOn

/-! ## Runs -/

/-- What happens to the bundler's server. -/
inductive Event where
  /-- It is started; without a temper, no process can be. -/
  | start (temper : Option Temper)
  | stop (grace : Quantity)
  /-- A process ends by itself. -/
  | exit (i : ℕ)

/-- The server after an event. -/
def step (s : DevServerProcess) : Event → DevServerProcess
  | .start temper => (s.start temper).1
  | .stop grace => (s.stop grace).1
  | .exit i => s.ended i

/-- The server after some events. -/
def run (s : DevServerProcess) (events : List Event) : DevServerProcess := events.foldl step s

/-- A process that is alive is the one that is held. -/
def Custody (s : DevServerProcess) : Prop := ∀ i, s.isAlive i = true → s.held = some i

theorem custody_idle (directory : Text) (startupWait : Quantity) (groups : Bool) :
    (idle directory startupWait groups).Custody := by
  intro i halive
  simp [isAlive, idle] at halive

namespace Custody

theorem not_isAlive_of_idle (h : s.Custody) (hidle : s.live? = none) (i : ℕ) :
    s.isAlive i = false := by
  by_contra halive
  rw [Bool.not_eq_false] at halive
  cases hidle.symm.trans (live?_eq_some_iff.2 ⟨h i halive, halive⟩)

theorem not_isAlive_of_ne (h : s.Custody) (hlive : s.live? = some i) (hj : j ≠ i) :
    s.isAlive j = false := by
  by_contra halive
  rw [Bool.not_eq_false] at halive
  have hheld := (live?_eq_some_iff.1 hlive).1
  exact hj (Option.some.inj ((h j halive).symm.trans hheld))

theorem start (h : s.Custody) (temper : Option Temper) : (s.start temper).1.Custody := by
  cases hrunning : s.running with
  | true =>
      rw [start_of_running hrunning]
      exact h
  | false =>
      cases temper with
      | none =>
          rw [start_of_failed hrunning]
          exact h
      | some temper =>
          intro i halive
          rw [start_of_spawned hrunning] at halive ⊢
          rw [isAlive_spawned, h.not_isAlive_of_idle (running_eq_false_iff.1 hrunning)] at halive
          exact congrArg some (of_decide_eq_true halive).symm

/-- A stop holds nothing afterwards, and leaves nothing alive. -/
theorem stop (h : s.Custody) (grace : Quantity) :
    (s.stop grace).1.held = none ∧ ∀ i, (s.stop grace).1.isAlive i = false := by
  cases hlive : s.live? with
  | none =>
      rw [stop_of_idle hlive]
      exact ⟨rfl, h.not_isAlive_of_idle hlive⟩
  | some i =>
      cases houtlasts : s.outlasts i with
      | false =>
          rw [stop_of_obeyed hlive houtlasts]
          refine ⟨rfl, fun j => ?_⟩
          by_cases hj : j = i
          · rw [hj]
            exact houtlasts
          · rw [isAlive_signalled_of_ne hj]
            exact h.not_isAlive_of_ne hlive hj
      | true =>
          rw [stop_of_outlasted hlive houtlasts]
          refine ⟨rfl, fun j => ?_⟩
          by_cases hj : j = i
          · rw [hj]
            exact not_isAlive_killed _ i
          · rw [isAlive_signalled_of_ne hj, isAlive_signalled_of_ne hj]
            exact h.not_isAlive_of_ne hlive hj

theorem exit (h : s.Custody) (i : ℕ) : (s.ended i).Custody := by
  intro j halive
  rw [isAlive_ended, Bool.and_eq_true] at halive
  exact h j halive.2

theorem step (h : s.Custody) (e : Event) : (s.step e).Custody := by
  cases e with
  | start temper => exact h.start temper
  | stop grace =>
      intro i halive
      cases ((h.stop grace).2 i).symm.trans halive
  | exit i => exact h.exit i

theorem run (h : s.Custody) (events : List Event) : (s.run events).Custody := by
  induction events generalizing s with
  | nil => exact h
  | cons e rest ih => exact ih (h.step e)

end Custody

/-! ## Signals -/

/-- What is done in an event. -/
def trace (s : DevServerProcess) : Event → ProcessTrace
  | .start temper => (s.start temper).2.1
  | .stop grace => (s.stop grace).2
  | .exit _ => ⟨[], [], none⟩

@[simp] theorem signal?_signal (s : DevServerProcess) (which : ProcessSignal) :
    (s.signal which).signal? = some which := by
  unfold signal
  split <;> rfl

theorem signal?_of_mem_start {temper : Option Temper} {call : ProcessCall}
    (h : call ∈ (s.start temper).2.1.calls) : call.signal? = none := by
  unfold start at h
  split at h
  · cases h
  · cases temper with
    | none =>
        obtain rfl := List.mem_singleton.1 h
        rfl
    | some temper =>
        rcases List.mem_cons.1 h with rfl | h
        · rfl
        · split at h
          · obtain rfl := List.mem_singleton.1 h
            rfl
          · cases h

/-- Only a process that is alive is signalled, and only by a stop. -/
theorem running_of_signal {e : Event} {call : ProcessCall} (h : call ∈ (s.trace e).calls)
    (hsignal : call.signal? = some which) : ∃ grace, e = .stop grace ∧ s.running = true := by
  cases e with
  | start temper => cases (signal?_of_mem_start h).symm.trans hsignal
  | stop grace =>
      refine ⟨grace, rfl, ?_⟩
      cases hlive : s.live? with
      | none =>
          change call ∈ (s.stop grace).2.calls at h
          rw [stop_of_idle hlive] at h
          cases h
      | some i => simp [running, hlive]
  | exit i => cases h

/-- Only a process is killed that was asked to end, was waited for, and went on. -/
theorem outlasts_of_kill {e : Event} {call : ProcessCall} {before after : List ProcessCall}
    (h : (s.trace e).calls = before ++ call :: after) (hkill : call.signal? = some .kill) :
    ∃ grace i, e = .stop grace ∧ s.live? = some i ∧ (s.trace e).process = some i ∧
      before = [s.signal .interrupt, .wait (some grace)] ∧ s.outlasts i = true := by
  have hmem : call ∈ (s.trace e).calls := by
    rw [h]
    exact List.mem_append_right _ List.mem_cons_self
  obtain ⟨grace, rfl, -⟩ := running_of_signal hmem hkill
  change (s.stop grace).2.calls = _ at h
  show ∃ grace' i, Event.stop grace = .stop grace' ∧ s.live? = some i ∧
    (s.stop grace).2.process = some i ∧ _
  cases hlive : s.live? with
  | none =>
      rw [stop_of_idle hlive] at h
      simp at h
  | some i =>
      cases houtlasts : s.outlasts i with
      | false =>
          -- of the two calls the first asks to end, and the second waits
          rw [stop_of_obeyed hlive houtlasts] at h
          rcases before with _ | ⟨x, _ | ⟨y, before⟩⟩
          · obtain ⟨rfl, -⟩ := List.cons.inj h
            simp at hkill
          · obtain ⟨rfl, -⟩ := List.cons.inj (List.cons.inj h).2
            cases hkill
          · simp at h
      | true =>
          rw [stop_of_outlasted hlive houtlasts] at h ⊢
          refine ⟨grace, i, rfl, rfl, rfl, ?_, houtlasts⟩
          rcases before with _ | ⟨x, _ | ⟨y, _ | ⟨z, _ | ⟨w, before⟩⟩⟩⟩
          · obtain ⟨rfl, -⟩ := List.cons.inj h
            simp at hkill
          · obtain ⟨rfl, -⟩ := List.cons.inj (List.cons.inj h).2
            cases hkill
          · obtain ⟨rfl, hrest⟩ := List.cons.inj h
            obtain ⟨rfl, -⟩ := List.cons.inj hrest
            rfl
          · simp only [List.cons_append, List.nil_append, List.cons.injEq] at h
            obtain ⟨-, -, -, rfl, -⟩ := h
            cases hkill
          · simp at h

/-! ## Every state that is reached -/

/-- What holds of a server, and of each event that may come next. -/
structure Kept (s : DevServerProcess) : Prop where
  held : ∀ i, s.isAlive i = true → s.held = some i
  alone : ∀ i j, s.isAlive i = true → s.isAlive j = true → i = j
  /-- While a process is running, none is started. -/
  running : s.running = true → ∀ temper, s.start temper = (s, ⟨[], [], none⟩, .ok ())
  /-- A process that is started is held at once. -/
  started : s.running = false → ∀ temper,
    (s.start (some temper)).1.live? = some s.processes.length ∧ (s.start (some temper)).1.Custody
  /-- A start that fails says so, and leaves nothing alive. -/
  failed : s.running = false → (s.start none).2.2 = .error spawnReport ∧
    (s.start none).1.processes = s.processes ∧ ∀ i, (s.start none).1.isAlive i = false
  stopped : ∀ grace, (s.stop grace).1.held = none ∧ ∀ i, (s.stop grace).1.isAlive i = false
  /-- Nobody is signalled but by a stop that finds a process running. -/
  signalled : ∀ e call which, call ∈ (s.trace e).calls → call.signal? = some which →
    ∃ grace, e = .stop grace ∧ s.running = true
  /-- Before a process is killed, the same one was asked to end, and went on past its time. -/
  killed : ∀ e before call after, (s.trace e).calls = before ++ call :: after →
    call.signal? = some .kill →
    ∃ grace i, e = .stop grace ∧ s.live? = some i ∧ (s.trace e).process = some i ∧
      before = [s.signal .interrupt, .wait (some grace)] ∧ s.outlasts i = true

theorem Custody.kept (h : s.Custody) : s.Kept where
  held := h
  alone := by
    intro i j hi hj
    exact Option.some.inj ((h i hi).symm.trans (h j hj))
  running := start_of_running
  started := by
    intro hidle temper
    refine ⟨?_, h.start (some temper)⟩
    rw [start_of_spawned hidle, live?_eq_some_iff]
    refine ⟨rfl, ?_⟩
    rw [isAlive_spawned]
    simp
  failed := by
    intro hidle
    rw [start_of_failed hidle]
    exact ⟨rfl, rfl, h.not_isAlive_of_idle (running_eq_false_iff.1 hidle)⟩
  stopped := h.stop
  signalled e call which := running_of_signal
  killed e before call after := outlasts_of_kill

/-- **No process is ever left behind.** Whatever is started and stopped, and however processes end
    or take signals, the one that is alive is the one that is held, and a stop leaves none. -/
theorem kept_run (directory : Text) (startupWait : Quantity) (groups : Bool)
    (events : List Event) : ((idle directory startupWait groups).run events).Kept :=
  ((custody_idle directory startupWait groups).run events).kept

/-- The first process ends by itself, the second is killed, and the third is held. -/
example : ((idle "vite" (.whole 0) true).run
    [.start (some .obedient), .exit 0, .start (some .stubborn), .start (some .gone),
      .stop (.whole 5), .start none, .start (some .late)]).processes.map (·.alive) =
    [false, false, true] := by
  decide +kernel

end DevServerProcess
end PageLoom
