import PageLoom.Proofs.LiveReload.Registry

set_option autoImplicit false

/-! # No signal is lost

A signal that is offered to a handle is stored, unless the handle keeps one already: in both cases
the handle keeps a signal afterwards, and it does so until its client receives it. Counted handle by
handle or over all broadcasts, the signals stored are those received and those still kept
(`Conserved`), however the calls overlap. -/

namespace PageLoom
namespace LiveReload

namespace Event

/-- Whether a handle is offered a signal. -/
def offers (id : ℕ) : Event → Bool
  | offered _ known _ => known = id
  | _ => false

/-- Whether a signal is stored. -/
def isStored : Event → Bool
  | offered _ _ stored => stored
  | _ => false

/-- Whether a wait brings a signal. -/
def isReceived : Event → Bool
  | received _ => true
  | _ => false

/-- The signals that a broadcast tells to have delivered. -/
def delivered : Event → ℕ
  | finished _ delivered => delivered
  | _ => 0

end Event

namespace Exchange

variable {s s' : Exchange} {e : Event} {es after before : List Event} {thread : Text}
  {id : ℕ}

/-! ## One handle -/

/-- A handle keeps a signal after an offer, and from then on until the signal is received. -/
theorem Step.keeps (hstep : Step s e s') (h : Enrolled es s) (id : ℕ) :
    s'.broadcaster.keeps id =
      (e.offers id || (decide (e ≠ .received id) && s.broadcaster.keeps id)) := by
  cases hstep with
  | connect hidle => exact (s.broadcaster.keeps_make id).trans (by simp [Event.offers])
  | @offer thread offered delivered next hcall hphase hnext =>
      have hmem := h.mem_ids (List.mem_of_getElem? hnext)
      show (s.broadcaster.offer next reloadSignal).1.keeps id = _
      rw [Broadcaster.keeps_offer hmem]
      by_cases hid : id = next
      · simp [Event.offers, hid]
      · simp [Event.offers, hid, Ne.symm hid]
  | @receive taken payload htake =>
      show (s.broadcaster.take taken).1.keeps id = _
      rw [Broadcaster.keeps_take]
      by_cases hid : id = taken
      · simp [Event.offers, hid]
      · simp [Event.offers, hid, Ne.symm hid]
  | disconnect hidle hgiven => simp [Event.offers, Exchange.begin]
  | broadcast hidle => simp [Event.offers, Exchange.begin]
  | comes hcall habsent => simp [Event.offers]
  | lookAgain hphase hwoken => simp [Event.offers]
  | register hcall hphase => exact (Bool.true_and _).symm
  | forget hcall hphase => exact (Bool.true_and _).symm
  | connected hcall hphase => simp [Event.offers, finish]
  | disconnected hcall hphase => simp [Event.offers, finish]
  | finished hcall hphase hend => simp [Event.offers, finish]
  | timeOut htake => simp [Event.offers]

/-- An offer is stored unless the handle keeps a signal. -/
theorem Step.isStored (hstep : Step s e s') (h : Enrolled es s) (hoffers : e.offers id = true) :
    e.isStored = !s.broadcaster.keeps id := by
  cases hstep with
  | @offer thread offered delivered next hcall hphase hnext =>
      obtain rfl : next = id := by simpa [Event.offers] using hoffers
      exact Broadcaster.offer_stored (h.mem_ids (List.mem_of_getElem? hnext)) _
  | _ => cases hoffers

/-- Only a signal that is kept is received. -/
theorem Step.keeps_of_received (hstep : Step s (.received id) s') :
    s.broadcaster.keeps id = true := by
  cases hstep with
  | receive htake =>
      rw [← Broadcaster.isSome_take, htake]
      rfl

/-- **What a handle accepted is what was received and what it still keeps.** -/
theorem Run.balance (h : Run es s) (id : ℕ) :
    es.countP (fun e => e.offers id && e.isStored) =
      es.count (.received id) + (s.broadcaster.keeps id).toNat := by
  induction h with
  | start => rfl
  | @step es e s s' hrun hstep ih =>
      rw [List.countP_cons, List.count_cons, ih, hstep.keeps hrun.enrolled]
      cases hoffers : e.offers id with
      | true =>
          have hother : e ≠ .received id := by
            rintro rfl
            cases hoffers
          rw [hstep.isStored hrun.enrolled hoffers]
          cases s.broadcaster.keeps id <;> simp [hother]
      | false =>
          by_cases hreceived : e = .received id
          · subst hreceived
            simp [hstep.keeps_of_received]
          · simp [hreceived]

/-- **Once a handle was offered a signal, one is received or still kept.** -/
theorem Run.received_or_keeps {stored : Bool}
    (h : Run (after ++ .offered thread id stored :: before) s) :
    .received id ∈ after ∨ s.broadcaster.keeps id = true := by
  induction after generalizing s with
  | nil =>
      cases h with
      | step hrun hstep =>
          right
          rw [hstep.keeps hrun.enrolled]
          simp [Event.offers]
  | cons e after ih =>
      cases h with
      | @step _ _ s₀ _ hrun hstep =>
          by_cases hreceived : e = .received id
          · exact .inl (hreceived ▸ List.mem_cons_self)
          · rcases ih hrun with hbefore | hkept
            · exact .inl (List.mem_cons_of_mem _ hbefore)
            · right
              rw [hstep.keeps hrun.enrolled]
              simp [hreceived, hkept]

/-! ## All broadcasts -/

/-- The signals that the broadcasts under way delivered so far. -/
def delivered (s : Exchange) : ℕ := (s.calls.map fun c => c.2.delivered).sum

theorem delivered_begin (s : Exchange) (thread : Text) (call : Call) :
    (s.begin thread call).delivered = s.delivered + call.delivered := by
  simp [Exchange.delivered, Exchange.begin]

theorem Placed.delivered_act (h : s.Placed) {call : Call} (hcall : s.call? thread = some call)
    (b : Broadcaster) (call' : Call) :
    (s.act b thread call').delivered + call.delivered = s.delivered + call'.delivered :=
  Keyed.sum_put (a := (thread, call')) h.threads (Keyed.value?_eq_some_iff.1 hcall)
    fun c => c.2.delivered

theorem Placed.delivered_finish (h : s.Placed) {call : Call}
    (hcall : s.call? thread = some call) :
    (s.finish thread).delivered + call.delivered = s.delivered :=
  Keyed.sum_erase h.threads (Keyed.value?_eq_some_iff.1 hcall) fun c => c.2.delivered

/-- A broadcast counts the signals that are stored, and tells their number at its end. -/
theorem Step.delivered (hstep : Step s e s') (h : s.Placed) :
    e.delivered + s'.delivered = s.delivered + e.isStored.toNat := by
  cases hstep with
  | connect hidle => exact (Nat.zero_add _).trans (delivered_begin ..)
  | disconnect hidle hgiven => exact (Nat.zero_add _).trans (delivered_begin ..)
  | broadcast hidle => exact (Nat.zero_add _).trans (delivered_begin ..)
  | register hcall hphase => exact (Nat.zero_add _).trans (h.delivered_act hcall ..)
  | forget hcall hphase => exact (Nat.zero_add _).trans (h.delivered_act hcall ..)
  | @offer thread offered delivered next hcall hphase hnext =>
      have hact := h.delivered_act hcall (s.broadcaster.offer next reloadSignal).1
        (.broadcast (offered + 1)
          (delivered + (s.broadcaster.offer next reloadSignal).2.toNat))
      simp only [Call.delivered] at hact
      simp only [Event.delivered, Event.isStored]
      omega
  | connected hcall hphase => exact (Nat.zero_add _).trans (h.delivered_finish hcall)
  | disconnected hcall hphase => exact (Nat.zero_add _).trans (h.delivered_finish hcall)
  | finished hcall hphase hend => exact (Nat.add_comm ..).trans (h.delivered_finish hcall)
  | comes hcall habsent => exact Nat.zero_add _
  | lookAgain hphase hwoken => exact Nat.zero_add _
  | receive htake => exact Nat.zero_add _
  | timeOut htake => exact Nat.zero_add _

/-- A stored signal is kept until it is received. -/
theorem Step.pending (hstep : Step s e s') (h : Enrolled es s) :
    s'.broadcaster.pending.length + e.isReceived.toNat =
      s.broadcaster.pending.length + e.isStored.toNat := by
  cases hstep with
  | connect hidle => exact s.broadcaster.length_pending_make
  | @offer thread offered delivered next hcall hphase hnext =>
      exact Broadcaster.length_pending_offer h.ids_nodup
        (h.mem_ids (List.mem_of_getElem? hnext)) _
  | @receive taken payload htake =>
      have hkept : s.broadcaster.keeps taken = true := by
        rw [← Broadcaster.isSome_take, htake]
        rfl
      have hlength := Broadcaster.length_pending_take h.ids_nodup taken
      rw [hkept] at hlength
      exact hlength
  | _ => rfl

/-- **What all broadcasts delivered is what was received and what is still kept.** -/
theorem Run.total (h : Run es s) :
    (es.map Event.delivered).sum + s.delivered =
      es.countP Event.isReceived + s.broadcaster.pending.length := by
  induction h with
  | start => rfl
  | @step es e s s' hrun hstep ih =>
      have hdelivered := hstep.delivered hrun.placed
      have hpending := hstep.pending hrun.enrolled
      rw [List.map_cons, List.sum_cons, List.countP_cons]
      cases he : e.isReceived <;> simp only [he, Bool.toNat_false, Bool.toNat_true] at hpending <;>
        simp <;> omega

/-! ## One broadcast -/

/-- What a broadcast that is under way after a step was before it. Nobody is registered or forgotten
    once it has offered to a handle. -/
theorem Step.broadcasting (hstep : Step s e s') (h : s.Placed) {offered delivered : ℕ}
    (hcall : s'.call? thread = some (.broadcast offered delivered)) :
    offered = 0 ∨
    (e ≠ .began thread ∧ s'.broadcaster.registered = s.broadcaster.registered ∧
      s.call? thread = some (.broadcast offered delivered)) ∨
    ∃ last next soFar stored, offered = last + 1 ∧ e = .offered thread next stored ∧
      s'.broadcaster.registered = s.broadcaster.registered ∧
      s.broadcaster.registered[last]? = some next ∧
      s.call? thread = some (.broadcast last soFar) := by
  cases hstep with
  | connect hidle =>
      have hcalls := call?_begin (s := { s with broadcaster := s.broadcaster.make.1 }) hidle
        (.connect s.broadcaster.make.2 false)
      exact .inr (.inl ⟨nofun, rfl, call?_of_ne hcalls nofun hcall⟩)
  | @disconnect goer id hidle hgiven =>
      have hcalls := call?_begin hidle (.disconnect id false)
      exact .inr (.inl ⟨nofun, rfl, call?_of_ne hcalls nofun hcall⟩)
  | broadcast hidle =>
      rw [call?_begin hidle] at hcall
      split at hcall
      next => cases hcall; exact .inl rfl
      next hother =>
        exact .inr (.inl ⟨fun heq => hother (Event.began.inj heq).symm, rfl, hcall⟩)
  | @register writer id hwriter hphase =>
      have hcalls := call?_act hwriter (s.broadcaster.register id) (.connect id true)
      exact .inl (h.not_offered hphase (call?_of_ne hcalls nofun hcall))
  | @forget writer id hwriter hphase =>
      have hcalls := call?_act hwriter (s.broadcaster.disconnect id) (.disconnect id true)
      exact .inl (h.not_offered hphase (call?_of_ne hcalls nofun hcall))
  | @offer reader last soFar next hreader hphase hnext =>
      rw [call?_act hreader] at hcall
      have hsame := Broadcaster.registered_offer s.broadcaster next reloadSignal
      split at hcall
      next heq =>
        subst heq
        cases hcall
        exact .inr (.inr ⟨last, next, soFar, _, rfl, rfl, hsame, hnext, hreader⟩)
      next => exact .inr (.inl ⟨nofun, hsame, hcall⟩)
  | connected hwriter hphase =>
      exact .inr (.inl ⟨nofun, rfl, call?_of_ne (call?_finish s _) nofun hcall⟩)
  | disconnected hwriter hphase =>
      exact .inr (.inl ⟨nofun, rfl, call?_of_ne (call?_finish s _) nofun hcall⟩)
  | finished hreader hphase hend =>
      exact .inr (.inl ⟨nofun, rfl, call?_of_ne (call?_finish s _) nofun hcall⟩)
  | comes _ habsent => exact .inr (.inl ⟨nofun, rfl, hcall⟩)
  | lookAgain hphase hwoken => exact .inr (.inl ⟨nofun, rfl, hcall⟩)
  | receive htake => exact .inr (.inl ⟨nofun, Broadcaster.registered_take .., hcall⟩)
  | timeOut htake => exact .inr (.inl ⟨nofun, rfl, hcall⟩)

/-- Whether a thread has offered a signal to a handle since it last began a broadcast. -/
def Reached (es : List Event) (thread : Text) (id : ℕ) : Prop :=
  ∃ recent stored earlier, es = recent ++ .offered thread id stored :: earlier ∧
    .began thread ∉ recent

theorem Reached.cons (h : Reached es thread id) (hbegan : e ≠ .began thread) :
    Reached (e :: es) thread id := by
  obtain ⟨recent, stored, earlier, rfl, hsince⟩ := h
  exact ⟨e :: recent, stored, earlier, rfl, by simp [hsince, hbegan.symm]⟩

/-- A broadcast under way has offered a signal to every handle that it has passed. -/
theorem Run.reached (h : Run es s) {offered delivered i : ℕ}
    (hcall : s.call? thread = some (.broadcast offered delivered)) (hi : i < offered)
    (hid : s.broadcaster.registered[i]? = some id) : Reached es thread id := by
  induction h generalizing offered delivered with
  | start => cases hcall
  | @step es e s s' hrun hstep ih =>
      rcases hstep.broadcasting hrun.placed hcall with rfl | hsame | hoffered
      · omega
      · obtain ⟨hbegan, hregistered, hbefore⟩ := hsame
        exact (ih hbefore hi (hregistered ▸ hid)).cons hbegan
      · obtain ⟨last, next, soFar, stored, rfl, rfl, hregistered, hnext, hbefore⟩ := hoffered
        rw [hregistered] at hid
        rcases Nat.lt_succ_iff_lt_or_eq.1 hi with hlt | rfl
        · exact (ih hbefore hlt hid).cons nofun
        · cases hnext.symm.trans hid
          exact ⟨[], stored, es, rfl, List.not_mem_nil⟩

/-- What happened up to some time is a run too. -/
theorem Run.suffix (after : List Event) (h : Run (after ++ before) s) : ∃ s₀, Run before s₀ := by
  induction after generalizing s with
  | nil => exact ⟨s, h⟩
  | cons e after ih =>
      cases h with
      | step hrun hstep => exact ih hrun

/-- **A broadcast reaches every handle that is registered when it is over.** -/
theorem Run.reached_of_finished {delivered : ℕ} (h : Run (.finished thread delivered :: es) s)
    (hregistered : .registered id ∈ es) (hforgotten : .forgotten id ∉ es) :
    Reached es thread id := by
  cases h with
  | @step _ _ s₀ _ hrun hstep =>
      cases hstep with
      | @finished _ offered _ hcall hphase hend =>
          have hmem := (hrun.enrolled.registered_iff id).2 ⟨hregistered, hforgotten⟩
          obtain ⟨i, hi⟩ := List.mem_iff_getElem?.1 hmem
          have hlength := List.getElem?_eq_none_iff.1 hend
          obtain ⟨hbound, -⟩ := List.getElem?_eq_some_iff.1 hi
          exact hrun.reached hcall (by omega) hi

/-- **A handle that is forgotten is offered nothing any more.** -/
theorem Run.not_offered {stored : Bool} (h : Run (.offered thread id stored :: es) s) :
    .forgotten id ∉ es := by
  cases h with
  | step hrun hstep =>
      cases hstep with
      | offer hcall hphase hnext =>
          exact ((hrun.enrolled.registered_iff id).1 (List.mem_of_getElem? hnext)).2

/-! ## Conservation -/

/-- What is so after every run, told by what happened in it. -/
structure Conserved (es : List Event) (s : Exchange) : Prop where
  /-- Every client has an id of its own. -/
  unique : s.broadcaster.ids.Nodup
  /-- Registered, each once, are the handles whose clients came and did not go. -/
  registered_nodup : s.broadcaster.registered.Nodup
  registered_iff : ∀ id, id ∈ s.broadcaster.registered ↔ .registered id ∈ es ∧ .forgotten id ∉ es
  registered_of_connected : ∀ id, .connected id ∈ es → .leaving id ∉ es →
    id ∈ s.broadcaster.registered
  not_registered_of_disconnected : ∀ id, .disconnected id ∈ es → id ∉ s.broadcaster.registered
  /-- What a handle accepted is what was received and what it still keeps. -/
  balance : ∀ id, es.countP (fun e => e.offers id && e.isStored) =
    es.count (.received id) + (s.broadcaster.keeps id).toNat
  /-- A handle that was offered a signal keeps one until it is received. -/
  kept : ∀ after thread id stored before, es = after ++ .offered thread id stored :: before →
    .received id ∈ after ∨ s.broadcaster.keeps id = true
  /-- A broadcast that is over has, since it began, offered a signal to every handle registered at
      its end; a signal was received there since, or is still kept. -/
  followed : ∀ after thread delivered before id,
    es = after ++ .finished thread delivered :: before →
    .registered id ∈ before → .forgotten id ∉ before →
    ∃ recent stored earlier, before = recent ++ .offered thread id stored :: earlier ∧
      .began thread ∉ recent ∧
      (.received id ∈ after ++ .finished thread delivered :: recent ∨
        s.broadcaster.keeps id = true)
  /-- What all broadcasts delivered is what was received and what is still kept. -/
  total : (es.map Event.delivered).sum + s.delivered =
    es.countP Event.isReceived + s.broadcaster.pending.length
  /-- Nothing is offered to a handle when its client was told that it is forgotten. -/
  silent : ∀ after id before, es = after ++ .disconnected id :: before →
    ∀ thread stored, .offered thread id stored ∉ after

/-- **However the calls of any number of threads overlap, no signal is lost and none is counted
    twice.** -/
theorem conserved_of_run (h : Run es s) : Conserved es s where
  unique := h.enrolled.ids_nodup
  registered_nodup := h.enrolled.registered_nodup
  registered_iff := h.enrolled.registered_iff
  registered_of_connected := by
    intro id hconnected hleaving
    have hforgotten : .forgotten id ∉ es := fun hmem => hleaving (h.enrolled.forgotten id hmem)
    exact (h.enrolled.registered_iff id).2 ⟨h.enrolled.connected id hconnected, hforgotten⟩
  not_registered_of_disconnected := by
    intro id hdisconnected hmem
    exact ((h.enrolled.registered_iff id).1 hmem).2 (h.enrolled.disconnected id hdisconnected)
  balance := h.balance
  kept := by
    rintro after thread id stored before rfl
    exact h.received_or_keeps
  followed := by
    rintro after thread delivered before id rfl hregistered hforgotten
    obtain ⟨s₀, hfinished⟩ := h.suffix after
    obtain ⟨recent, stored, earlier, rfl, hsince⟩ :=
      hfinished.reached_of_finished hregistered hforgotten
    refine ⟨recent, stored, earlier, rfl, hsince, ?_⟩
    have hall : Run ((after ++ .finished thread delivered :: recent) ++
        .offered thread id stored :: earlier) s := by
      rw [List.append_assoc]
      exact h
    exact hall.received_or_keeps
  total := h.total
  silent := by
    rintro after id before rfl thread stored hmem
    obtain ⟨later, between, rfl⟩ := List.append_of_mem hmem
    rw [List.append_assoc] at h
    obtain ⟨s₀, hoffered⟩ := h.suffix later
    obtain ⟨s₁, hrun⟩ := hoffered.suffix [.offered thread id stored]
    exact hoffered.not_offered
      (hrun.enrolled.disconnected id (List.mem_append_right _ List.mem_cons_self))

/-- Two broadcasts overlap. The client receives the signal of one before the other offers its own,
    and goes while that one is still kept. -/
def overlap : List Event :=
  [.disconnected 1, .forgotten 1, .looked "a", .finished "c" 1, .finished "b" 1, .looked "a",
    .leaving 1, .offered "c" 1 true, .received 1, .offered "b" 1 true, .looked "c", .looked "b",
    .began "c", .began "b", .connected 1, .registered 1, .looked "a", .made 1]

theorem conserved_overlap :
    Run overlap ⟨⟨[⟨1, some reloadSignal⟩], []⟩, .free, [], [1]⟩ ∧
      Conserved overlap ⟨⟨[⟨1, some reloadSignal⟩], []⟩, .free, [], [1]⟩ := by
  have hconnected : Run (overlap.drop 14) ⟨⟨[⟨1, none⟩], [1]⟩, .free, [], [1]⟩ :=
    .step (.step (.step (.step .start (@Step.connect _ "a" rfl)) (@Step.comes _ "a" _ rfl rfl))
      (@Step.register _ "a" _ rfl rfl)) (@Step.connected _ "a" _ rfl rfl)
  have hreading : Run (overlap.drop 10) ⟨⟨[⟨1, none⟩], [1]⟩,
      ⟨2, false, 0, [("b", .reading), ("c", .reading)]⟩,
      [("b", .broadcast 0 0), ("c", .broadcast 0 0)], [1]⟩ :=
    .step (.step (.step (.step hconnected (@Step.broadcast _ "b" rfl))
      (@Step.broadcast _ "c" rfl)) (@Step.comes _ "b" (.broadcast 0 0) rfl rfl))
      (@Step.comes _ "c" (.broadcast 0 0) rfl rfl)
  have hoffered : Run (overlap.drop 7) ⟨⟨[⟨1, some reloadSignal⟩], [1]⟩,
      ⟨2, false, 0, [("b", .reading), ("c", .reading)]⟩,
      [("b", .broadcast 1 1), ("c", .broadcast 1 1)], [1]⟩ :=
    .step (.step (.step hreading (@Step.offer _ "b" _ _ _ rfl rfl rfl))
      (@Step.receive _ 1 _ rfl)) (@Step.offer _ "c" _ _ _ rfl rfl rfl)
  have hwoken : Run (overlap.drop 3) ⟨⟨[⟨1, some reloadSignal⟩], [1]⟩,
      ⟨0, false, 1, [("a", .blockedWriter true)]⟩, [("a", .disconnect 1 false)], [1]⟩ :=
    .step (.step (.step (.step hoffered
      (@Step.disconnect _ "a" 1 rfl List.mem_cons_self)) (@Step.comes _ "a" _ rfl rfl))
      (@Step.finished _ "b" _ _ rfl rfl rfl)) (@Step.finished _ "c" _ _ rfl rfl rfl)
  have hrun : Run overlap ⟨⟨[⟨1, some reloadSignal⟩], []⟩, .free, [], [1]⟩ :=
    .step (.step (.step hwoken (@Step.lookAgain _ "a" _ rfl rfl))
      (@Step.forget _ "a" _ rfl rfl)) (@Step.disconnected _ "a" _ rfl rfl)
  exact ⟨hrun, conserved_of_run hrun⟩

end Exchange
end LiveReload
end PageLoom
