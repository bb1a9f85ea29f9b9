import PageLoom.Proofs.LiveReload.Exclusion
import PageLoom.Proofs.LiveReload.Signal

set_option autoImplicit false

/-! # Calls of a broadcaster, interleaved

Threads call a broadcaster at any time, and a call is not done at once: a client is registered or
forgotten inside the lock as a writer, and a broadcast offers to one handle after the other inside
the lock as a reader. Between any two of these steps other threads take theirs. A run is told by its
events. Whoever acts is inside the lock (`Run.placed`), so while a broadcast has offered to some
handles and not to others, nobody is registered or forgotten (`Placed.not_offered`). A call that
nobody interrupts does what the broadcaster does at once (`Run.connect`, `Run.disconnect`,
`Run.broadcast`). -/

namespace PageLoom
namespace LiveReload

/-- A call under way. -/
inductive Call where
  /-- A client comes; `done` says whether its handle is registered. -/
  | connect (id : ℕ) (done : Bool)
  /-- A client goes; `done` says whether its handle is forgotten. -/
  | disconnect (id : ℕ) (done : Bool)
  /-- A broadcast, with the numbers of handles that were offered a signal and that stored it. -/
  | broadcast (offered delivered : ℕ)
  deriving DecidableEq, Repr

namespace Call

/-- Whether a call needs the lock for itself. -/
def writes : Call → Bool
  | broadcast _ _ => false
  | _ => true

/-- Whether a call has done something that others can see. -/
def acted : Call → Bool
  | connect _ done | disconnect _ done => done
  | broadcast offered _ => offered ≠ 0

/-- The signals that a broadcast delivered so far. -/
def delivered : Call → ℕ
  | broadcast _ delivered => delivered
  | _ => 0

end Call

/-- A broadcaster, its lock, and the threads that call it. -/
structure Exchange where
  broadcaster : Broadcaster
  lock : Lock
  /-- The calls under way, by thread. -/
  calls : List (Text × Call)
  /-- The handles that clients were given. -/
  given : List ℕ
  deriving DecidableEq, Repr

/-- What happens in a step. -/
inductive Event where
  /-- A client comes, and its handle is made. -/
  | made (id : ℕ)
  | registered (id : ℕ)
  /-- The client is given its handle. -/
  | connected (id : ℕ)
  /-- The client of a handle begins to go. -/
  | leaving (id : ℕ)
  | forgotten (id : ℕ)
  /-- The client is told that its handle is forgotten. -/
  | disconnected (id : ℕ)
  /-- A thread begins a broadcast. -/
  | began (thread : Text)
  /-- The broadcast of a thread offers a signal to a handle, which may store it. -/
  | offered (thread : Text) (id : ℕ) (stored : Bool)
  /-- The broadcast of a thread is over, and tells how many handles stored its signal. -/
  | finished (thread : Text) (delivered : ℕ)
  /-- A wait brings the signal of a handle. -/
  | received (id : ℕ)
  /-- A wait brings nothing. -/
  | timedOut (id : ℕ)
  /-- A thread comes to the lock, or looks again. -/
  | looked (thread : Text)
  deriving DecidableEq, Repr

namespace Exchange

/-- Nobody has ever called. -/
def start : Exchange := ⟨.empty, .free, [], []⟩

/-- The call that a thread is in. -/
def call? (s : Exchange) (thread : Text) : Option Call := Keyed.value? thread s.calls

/-- A thread begins a call. -/
def begin (s : Exchange) (thread : Text) (call : Call) : Exchange :=
  { s with calls := s.calls ++ [(thread, call)] }

/-- A thread acts inside the lock, and its call goes on. -/
def act (s : Exchange) (b : Broadcaster) (thread : Text) (call : Call) : Exchange :=
  { s with broadcaster := b, calls := Keyed.put Prod.fst (thread, call) s.calls }

/-- A thread leaves the lock, and its call is over. -/
def finish (s : Exchange) (thread : Text) : Exchange :=
  { s with lock := s.lock.leave thread, calls := Keyed.erase Prod.fst thread s.calls }

/-- One step of one thread, and what happens in it. A wait needs no lock and may be made by whoever
    has the handle. -/
inductive Step : Exchange → Event → Exchange → Prop where
  | connect {s : Exchange} {thread : Text} (hidle : s.call? thread = none) :
      Step s (.made s.broadcaster.make.2)
        ({ s with broadcaster := s.broadcaster.make.1 }.begin thread
          (.connect s.broadcaster.make.2 false))
  | disconnect {s : Exchange} {thread : Text} {id : ℕ} (hidle : s.call? thread = none)
      (hgiven : id ∈ s.given) : Step s (.leaving id) (s.begin thread (.disconnect id false))
  | broadcast {s : Exchange} {thread : Text} (hidle : s.call? thread = none) :
      Step s (.began thread) (s.begin thread (.broadcast 0 0))
  | comes {s : Exchange} {thread : Text} {call : Call} (hcall : s.call? thread = some call)
      (habsent : s.lock.phase? thread = none) :
      Step s (.looked thread)
        { s with lock := if call.writes then s.lock.write thread else s.lock.read thread }
  | lookAgain {s : Exchange} {thread : Text} {p : LockPhase}
      (hphase : s.lock.phase? thread = some p) (hwoken : p.isWoken = true) :
      Step s (.looked thread) { s with lock := s.lock.lookAgain thread }
  | register {s : Exchange} {thread : Text} {id : ℕ}
      (hcall : s.call? thread = some (.connect id false))
      (hphase : s.lock.phase? thread = some .writing) :
      Step s (.registered id) (s.act (s.broadcaster.register id) thread (.connect id true))
  | forget {s : Exchange} {thread : Text} {id : ℕ}
      (hcall : s.call? thread = some (.disconnect id false))
      (hphase : s.lock.phase? thread = some .writing) :
      Step s (.forgotten id) (s.act (s.broadcaster.disconnect id) thread (.disconnect id true))
  | offer {s : Exchange} {thread : Text} {offered delivered id : ℕ}
      (hcall : s.call? thread = some (.broadcast offered delivered))
      (hphase : s.lock.phase? thread = some .reading)
      (hnext : s.broadcaster.registered[offered]? = some id) :
      Step s (.offered thread id (s.broadcaster.offer id reloadSignal).2)
        (s.act (s.broadcaster.offer id reloadSignal).1 thread
          (.broadcast (offered + 1)
            (delivered + (s.broadcaster.offer id reloadSignal).2.toNat)))
  | connected {s : Exchange} {thread : Text} {id : ℕ}
      (hcall : s.call? thread = some (.connect id true))
      (hphase : s.lock.phase? thread = some .writing) :
      Step s (.connected id) { s.finish thread with given := s.given ++ [id] }
  | disconnected {s : Exchange} {thread : Text} {id : ℕ}
      (hcall : s.call? thread = some (.disconnect id true))
      (hphase : s.lock.phase? thread = some .writing) :
      Step s (.disconnected id) (s.finish thread)
  | finished {s : Exchange} {thread : Text} {offered delivered : ℕ}
      (hcall : s.call? thread = some (.broadcast offered delivered))
      (hphase : s.lock.phase? thread = some .reading)
      (hend : s.broadcaster.registered[offered]? = none) :
      Step s (.finished thread delivered) (s.finish thread)
  | receive {s : Exchange} {id : ℕ} {payload : Text}
      (htake : (s.broadcaster.take id).2 = some payload) :
      Step s (.received id) { s with broadcaster := (s.broadcaster.take id).1 }
  | timeOut {s : Exchange} {id : ℕ} (htake : (s.broadcaster.take id).2 = none) :
      Step s (.timedOut id) s

/-- A run of any threads: what happened, the latest first, and what came of it. -/
inductive Run : List Event → Exchange → Prop where
  | start : Run [] .start
  | step {es : List Event} {e : Event} {s s' : Exchange} (h : Run es s) (hstep : Step s e s') :
      Run (e :: es) s'

variable {s s' : Exchange} {e : Event} {es : List Event} {thread other : Text} {call : Call}

/-! ## Who is where -/

/-- A thread is at the lock only in a call, as that call needs it, and has done something that
    others can see only inside the lock. -/
structure Placed (s : Exchange) : Prop where
  reachable : s.lock.Reachable
  threads : (s.calls.map Prod.fst).Nodup
  calling : ∀ thread p, s.lock.phase? thread = some p →
    ∃ call, s.call? thread = some call ∧ p.writes = call.writes
  inside : ∀ thread call, s.call? thread = some call → call.acted = true →
    ∃ p, s.lock.phase? thread = some p ∧ p.holds = true

theorem call?_begin (hidle : s.call? thread = none) (call : Call) (other : Text) :
    (s.begin thread call).call? other = if other = thread then some call else s.call? other :=
  Keyed.value?_append_single hidle

theorem call?_act (hcall : s.call? thread = some call) (b : Broadcaster) (call' : Call)
    (other : Text) :
    (s.act b thread call').call? other =
      if other = thread then some call' else s.call? other :=
  Keyed.value?_put hcall

theorem call?_finish (s : Exchange) (thread other : Text) :
    (s.finish thread).call? other = if other = thread then none else s.call? other :=
  Keyed.value?_erase

/-- A call that is not the one a thread goes on with was there before. -/
theorem call?_of_ne {next : Option Call}
    (hcalls : ∀ other, s'.call? other = if other = thread then next else s.call? other)
    (hnext : next ≠ some call) (hcall : s'.call? other = some call) :
    s.call? other = some call := by
  rw [hcalls] at hcall
  split at hcall
  · exact absurd hcall hnext
  · exact hcall

/-- Whoever looks stays on its side of the lock, and the others stay where they are. -/
theorem exists_phase?_look {l l₀ : Lock} {p : LockPhase} (h : l.AboutToLook l₀ thread p) :
    ∃ r, r.writes = p.writes ∧ ∀ other, (l₀.look thread p).phase? other =
      if other = thread then some r else l.phase? other := by
  refine ⟨if l₀.admits p then p.enter else p.rest, ?_, fun other => ?_⟩
  · split
    · exact p.writes_enter
    · exact p.writes_rest
  · rw [Lock.phase?_look h.phase h.blocked]
    split
    next => rfl
    next hother => exact h.others other hother

theorem Placed.phase?_of_idle (h : s.Placed) (hidle : s.call? thread = none) :
    s.lock.phase? thread = none := by
  cases hphase : s.lock.phase? thread with
  | none => rfl
  | some p =>
      obtain ⟨call, hcall, -⟩ := h.calling thread p hphase
      cases hidle.symm.trans hcall

/-- A thread that is not inside has done nothing that others can see. -/
theorem Placed.acted_eq_false (h : s.Placed) (hcall : s.call? thread = some call)
    (hout : ∀ p, s.lock.phase? thread = some p → p.holds = false) : call.acted = false := by
  by_contra hacted
  rw [Bool.not_eq_false] at hacted
  obtain ⟨p, hphase, hholds⟩ := h.inside thread call hcall hacted
  cases (hout p hphase).symm.trans hholds

theorem Placed.begin (h : s.Placed) (hidle : s.call? thread = none) (hacted : call.acted = false) :
    (s.begin thread call).Placed where
  reachable := h.reachable
  threads := Keyed.nodup_append_single h.threads (Keyed.value?_eq_none_iff.1 hidle)
  calling := by
    intro other p hphase
    have hne : other ≠ thread := by
      rintro rfl
      cases (h.phase?_of_idle hidle).symm.trans hphase
    rw [call?_begin hidle, if_neg hne]
    exact h.calling other p hphase
  inside := by
    intro other c hcall hc
    rw [call?_begin hidle] at hcall
    split at hcall
    · cases hcall
      cases hacted.symm.trans hc
    · exact h.inside other c hcall hc

/-- A thread that is inside acts. -/
theorem Placed.act (h : s.Placed) (hcall : s.call? thread = some call) {p : LockPhase}
    (hphase : s.lock.phase? thread = some p) (hholds : p.holds = true) (b : Broadcaster)
    {call' : Call} (hwrites : call'.writes = call.writes) : (s.act b thread call').Placed where
  reachable := h.reachable
  threads := by
    show ((Keyed.put Prod.fst (thread, call') s.calls).map Prod.fst).Nodup
    rw [Keyed.map_key_put]
    exact h.threads
  calling := by
    intro other r hr
    obtain ⟨c, hc, hside⟩ := h.calling other r hr
    rw [call?_act hcall]
    by_cases hother : other = thread
    · subst hother
      cases hcall.symm.trans hc
      exact ⟨call', if_pos rfl, hside.trans hwrites.symm⟩
    · exact ⟨c, (if_neg hother).trans hc, hside⟩
  inside := by
    intro other c hc hacted
    rw [call?_act hcall] at hc
    split at hc
    next hother => exact ⟨p, hother ▸ hphase, hholds⟩
    next => exact h.inside other c hc hacted

/-- A thread comes to the lock or looks again: the others stay where they are. -/
theorem Placed.look (h : s.Placed) (hcall : s.call? thread = some call) {l : Lock} {r : LockPhase}
    (hstep : Lock.Step s.lock l) (hwrites : r.writes = call.writes) (hacted : call.acted = false)
    (hphases : ∀ other, l.phase? other = if other = thread then some r else s.lock.phase? other) :
    Placed { s with lock := l } where
  reachable := .step h.reachable hstep
  threads := h.threads
  calling := by
    intro other p hphase
    change l.phase? other = some p at hphase
    rw [hphases] at hphase
    split at hphase
    next hother =>
      cases hphase
      exact ⟨call, hother ▸ hcall, hwrites⟩
    next => exact h.calling other p hphase
  inside := by
    intro other c hc hc'
    have hother : other ≠ thread := by
      rintro rfl
      cases hcall.symm.trans hc
      cases hacted.symm.trans hc'
    obtain ⟨p, hphase, hholds⟩ := h.inside other c hc hc'
    exact ⟨p, ((hphases other).trans (if_neg hother)).trans hphase, hholds⟩

/-- A thread leaves: the others stay where they are, except that they may be woken. -/
theorem Placed.finish (h : s.Placed) {p : LockPhase} (hphase : s.lock.phase? thread = some p)
    (hholds : p.holds = true) : (s.finish thread).Placed where
  reachable := .step h.reachable (.leave hphase hholds)
  threads := Keyed.nodup_erase h.threads
  calling := by
    intro other r hr
    change (s.lock.leave thread).phase? other = some r at hr
    rw [call?_finish]
    rcases Lock.phase?_leave hphase hholds other with hleft | hleft <;> rw [hleft] at hr
    · split at hr
      · cases hr
      next hother =>
        obtain ⟨c, hc, hside⟩ := h.calling other r hr
        exact ⟨c, (if_neg hother).trans hc, hside⟩
    · split at hr
      · cases hr
      next hother =>
        obtain ⟨r', hr', rfl⟩ := Option.map_eq_some_iff.1 hr
        obtain ⟨c, hc, hside⟩ := h.calling other r' hr'
        exact ⟨c, (if_neg hother).trans hc, r'.writes_wake.trans hside⟩
  inside := by
    intro other c hc hacted
    rw [call?_finish] at hc
    split at hc
    · cases hc
    next hother =>
      obtain ⟨r, hr, hin⟩ := h.inside other c hc hacted
      refine ⟨r, ?_, hin⟩
      show (s.lock.leave thread).phase? other = some r
      rcases Lock.phase?_leave hphase hholds other with hleft | hleft
      · rw [hleft, if_neg hother, hr]
      · rw [hleft, if_neg hother, hr, Option.map_some, LockPhase.wake_of_holds hin]

/-- The lock and the calls alone say who is where. -/
theorem Placed.congr (h : s.Placed) (hlock : s'.lock = s.lock) (hcalls : s'.calls = s.calls) :
    s'.Placed := by
  obtain ⟨b, l, calls, given⟩ := s
  obtain ⟨b', l', calls', given'⟩ := s'
  obtain rfl : l' = l := hlock
  obtain rfl : calls' = calls := hcalls
  exact ⟨h.reachable, h.threads, h.calling, h.inside⟩

theorem Step.placed (hstep : Step s e s') (h : s.Placed) : s'.Placed := by
  cases hstep with
  | connect hidle =>
      have hmade : Placed { s with broadcaster := s.broadcaster.make.1 } := h.congr rfl rfl
      exact hmade.begin hidle rfl
  | disconnect hidle hgiven => exact h.begin hidle rfl
  | broadcast hidle => exact h.begin hidle rfl
  | @comes thread call hcall habsent =>
      have hacted : call.acted = false := h.acted_eq_false hcall fun p hphase => by
        cases habsent.symm.trans hphase
      cases hwrites : call.writes with
      | true =>
          obtain ⟨r, hr, hphases⟩ := exists_phase?_look
            (Lock.aboutToLook_comes habsent (p := .blockedWriter false) rfl)
          exact h.look hcall (.write habsent) (hr.trans hwrites.symm) hacted hphases
      | false =>
          obtain ⟨r, hr, hphases⟩ := exists_phase?_look
            (Lock.aboutToLook_comes habsent (p := .blockedReader false) rfl)
          exact h.look hcall (.read habsent) (hr.trans hwrites.symm) hacted hphases
  | @lookAgain thread p hphase hwoken =>
      obtain ⟨call, hcall, hside⟩ := h.calling thread p hphase
      have hacted : call.acted = false := h.acted_eq_false hcall fun r hr => by
        cases hphase.symm.trans hr
        exact LockPhase.holds_eq_false_of_isWoken hwoken
      obtain ⟨r, hr, hphases⟩ := exists_phase?_look (Lock.aboutToLook_again hphase hwoken)
      rw [← Lock.lookAgain_eq_look hphase hwoken] at hphases
      exact h.look hcall (.lookAgain hphase hwoken) (hr.trans hside) hacted hphases
  | register hcall hphase => exact h.act hcall hphase rfl _ rfl
  | forget hcall hphase => exact h.act hcall hphase rfl _ rfl
  | offer hcall hphase hnext => exact h.act hcall hphase rfl _ rfl
  | connected hcall hphase => exact (h.finish hphase rfl).congr rfl rfl
  | disconnected hcall hphase => exact h.finish hphase rfl
  | finished hcall hphase hend => exact h.finish hphase rfl
  | receive htake => exact h.congr rfl rfl
  | timeOut htake => exact h

theorem Run.placed (h : Run es s) : s.Placed := by
  induction h with
  | start => exact ⟨.free, List.nodup_nil, nofun, nofun⟩
  | step _ hstep ih => exact hstep.placed ih

/-- While a thread is inside as a writer, no broadcast has offered anything yet. -/
theorem Placed.not_offered (h : s.Placed) (hphase : s.lock.phase? thread = some .writing)
    {offered delivered : ℕ} (hcall : s.call? other = some (.broadcast offered delivered)) :
    offered = 0 := by
  by_contra hoffered
  obtain ⟨p, hp, hholds⟩ := h.inside other _ hcall (by simpa [Call.acted] using hoffered)
  obtain ⟨call, hcall', hside⟩ := h.calling other p hp
  cases hcall.symm.trans hcall'
  cases p with
  | reading => exact h.reachable.balanced.not_reading hphase hp
  | writing => cases hside
  | blockedReader woken => cases hholds
  | blockedWriter woken => cases hholds

/-! ## Calls that nobody interrupts -/

/-- The lock with one writer. -/
def writing (thread : Text) : Lock := ⟨0, true, 0, [(thread, .writing)]⟩

/-- The lock with one reader. -/
def reading (thread : Text) : Lock := ⟨1, false, 0, [(thread, .reading)]⟩

section Alone

variable (b b' : Broadcaster) (l : Lock) (thread : Text) (call call' : Call) (given : List ℕ)

theorem call?_single : call? ⟨b, l, [(thread, call)], given⟩ thread = some call := by
  simp [call?, Keyed.value?, Keyed.lookUp?]

theorem act_single :
    act ⟨b, l, [(thread, call)], given⟩ b' thread call' = ⟨b', l, [(thread, call')], given⟩ := by
  simp [act, Keyed.put]

theorem finish_writing :
    finish ⟨b, writing thread, [(thread, call)], given⟩ thread = ⟨b, .free, [], given⟩ := by
  simp [finish, writing, Keyed.erase, Lock.leave, Lock.phase?, Lock.wakeAll, Lock.free]

theorem finish_reading :
    finish ⟨b, reading thread, [(thread, call)], given⟩ thread = ⟨b, .free, [], given⟩ := by
  simp [finish, reading, Keyed.erase, Lock.leave, Lock.phase?, Lock.wakeAll, Lock.free]

theorem phase?_writing : (writing thread).phase? thread = some .writing := by
  simp [writing, Lock.phase?]

theorem phase?_reading : (reading thread).phase? thread = some .reading := by
  simp [reading, Lock.phase?]

end Alone

variable {b : Broadcaster} {given : List ℕ}

theorem Run.enters (h : Run es ⟨b, .free, [(thread, call)], given⟩) :
    Run (.looked thread :: es)
      ⟨b, if call.writes then writing thread else reading thread, [(thread, call)], given⟩ := by
  have hwrite : Lock.free.write thread = writing thread := by
    simp [Lock.write, Lock.look, Lock.free, Lock.admitsWriter, Lock.setPhase, writing]
  have hread : Lock.free.read thread = reading thread := by
    simp [Lock.read, Lock.look, Lock.free, Lock.admitsReader, Lock.setPhase, reading]
  rw [← hwrite, ← hread]
  exact .step h (.comes (call?_single ..) rfl)

/-- A client comes. -/
theorem Run.connect (h : Run es ⟨b, .free, [], given⟩) (thread : Text) :
    Run (.connected b.connect.2 :: .registered b.connect.2 :: .looked thread ::
      .made b.connect.2 :: es) ⟨b.connect.1, .free, [], given ++ [b.connect.2]⟩ := by
  rw [Broadcaster.connect_eq]
  have hinside : Run (.looked thread :: .made b.make.2 :: es)
      ⟨b.make.1, writing thread, [(thread, .connect b.make.2 false)], given⟩ :=
    (Run.step h (@Step.connect _ thread rfl)).enters
  have hacted := Run.step hinside (.register (call?_single ..) (phase?_writing thread))
  rw [act_single] at hacted
  have hdone := Run.step hacted (.connected (call?_single ..) (phase?_writing thread))
  rw [finish_writing] at hdone
  exact hdone

/-- A client goes. -/
theorem Run.disconnect (h : Run es ⟨b, .free, [], given⟩) (thread : Text) {id : ℕ}
    (hgiven : id ∈ given) :
    Run (.disconnected id :: .forgotten id :: .looked thread :: .leaving id :: es)
      ⟨b.disconnect id, .free, [], given⟩ := by
  have hinside : Run (.looked thread :: .leaving id :: es)
      ⟨b, writing thread, [(thread, .disconnect id false)], given⟩ :=
    (Run.step h (@Step.disconnect _ thread id rfl hgiven)).enters
  have hacted := Run.step hinside (.forget (call?_single ..) (phase?_writing thread))
  rw [act_single] at hacted
  have hdone := Run.step hacted (.disconnected (call?_single ..) (phase?_writing thread))
  rw [finish_writing] at hdone
  exact hdone

/-- The offers of a broadcast, one after the other. -/
theorem Run.offerAll (passed : List ℕ) {rest : List ℕ} {delivered : ℕ}
    (h : Run es ⟨b, reading thread, [(thread, .broadcast passed.length delivered)], given⟩)
    (hregistered : b.registered = passed ++ rest) :
    ∃ offers, Run (offers ++ es) ⟨(b.offerAll rest).1, reading thread,
      [(thread, .broadcast b.registered.length (delivered + (b.offerAll rest).2))], given⟩ ∧
      (b.offerAll rest).1.registered = b.registered := by
  induction rest generalizing b passed delivered es with
  | nil => exact ⟨[], by simpa [Broadcaster.offerAll, hregistered] using h, rfl⟩
  | cons id rest ih =>
      have hnext : b.registered[passed.length]? = some id := by simp [hregistered]
      have hsame := Broadcaster.registered_offer b id reloadSignal
      have hoffered := Run.step h (.offer (call?_single ..) (phase?_reading thread) hnext)
      rw [act_single] at hoffered
      obtain ⟨offers, hrun, hend⟩ := ih (passed ++ [id])
        (by simpa using hoffered) (by simp [hsame, hregistered])
      refine ⟨offers ++ [.offered thread id (b.offer id reloadSignal).2], ?_, hend.trans hsame⟩
      have hcount : delivered + (b.offer id reloadSignal).2.toNat +
          ((b.offer id reloadSignal).1.offerAll rest).2 =
            delivered + (b.offerAll (id :: rest)).2 := by
        have hall : (b.offerAll (id :: rest)).2 = ((b.offer id reloadSignal).1.offerAll rest).2 +
            if (b.offer id reloadSignal).2 then 1 else 0 := rfl
        rw [hall]
        cases (b.offer id reloadSignal).2 <;> simp only [Bool.toNat_false, Bool.toNat_true,
          if_true, Bool.false_eq_true, if_false] <;> omega
      rw [hcount, hsame] at hrun
      rw [List.append_assoc]
      exact hrun

/-- A broadcast. -/
theorem Run.broadcast (h : Run es ⟨b, .free, [], given⟩) (thread : Text) :
    ∃ offers, Run (.finished thread b.broadcast.2 :: (offers ++ .looked thread ::
      .began thread :: es)) ⟨b.broadcast.1, .free, [], given⟩ := by
  have hinside : Run (.looked thread :: .began thread :: es)
      ⟨b, reading thread, [(thread, .broadcast 0 0)], given⟩ :=
    (Run.step h (@Step.broadcast _ thread rfl)).enters
  obtain ⟨offers, hrun, hend⟩ := hinside.offerAll [] rfl
  have hdone := Run.step hrun (.finished (call?_single ..) (phase?_reading thread)
    (List.getElem?_eq_none (Nat.le_of_eq (congrArg List.length hend))))
  rw [finish_reading, Nat.zero_add] at hdone
  exact ⟨offers, hdone⟩

end Exchange
end LiveReload
end PageLoom
