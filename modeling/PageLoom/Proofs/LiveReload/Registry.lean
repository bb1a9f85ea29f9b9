import Mathlib.Data.List.Nodup
import PageLoom.Proofs.LiveReload.Interleaving

set_option autoImplicit false

/-! # Who is registered

A handle is registered once, after it was made, and forgotten after its client was given it and
began to go. In between, and only then, it is registered (`Enrolled.registered_iff`). What a step
does to the registry is said once for each part of it, by the event of the step (`Step.ids`,
`Step.registered`, `Step.given`, `Step.exists_mover`), and what happened says how far the calls
under way are. -/

namespace PageLoom
namespace LiveReload

namespace Event

/-- What comes before an event on a client's way through the registry. -/
def before? : Event → Option Event
  | registered id => some (.made id)
  | connected id => some (.registered id)
  | leaving id => some (.connected id)
  | forgotten id => some (.leaving id)
  | disconnected id => some (.forgotten id)
  | _ => none

/-- The ids of all handles after an event. -/
def idsAfter (ids : List ℕ) : Event → List ℕ
  | made id => ids ++ [id]
  | _ => ids

/-- The registered handles after an event. -/
def registeredAfter (ids : List ℕ) : Event → List ℕ
  | registered id => ids ++ [id]
  | forgotten id => ids.filter (· ≠ id)
  | _ => ids

/-- The handles that clients have after an event. -/
def givenAfter (ids : List ℕ) : Event → List ℕ
  | connected id => ids ++ [id]
  | _ => ids

/-- An event takes a call one stage further. -/
inductive Takes : Event → Option Call → Call → Prop
  | made (id : ℕ) : Takes (.made id) none (.connect id false)
  | registered (id : ℕ) : Takes (.registered id) (some (.connect id false)) (.connect id true)
  | leaving (id : ℕ) : Takes (.leaving id) none (.disconnect id false)
  | forgotten (id : ℕ) : Takes (.forgotten id) (some (.disconnect id false)) (.disconnect id true)
  | broadcast (e : Event) (call : Option Call) (offered delivered : ℕ) :
      Takes e call (.broadcast offered delivered)

end Event

/-- What happened says how far a call is. A handle whose client is still coming is made and was not
    registered yet. -/
def Call.Fits (es : List Event) : Call → Prop
  | connect id false => .made id ∈ es ∧ .registered id ∉ es
  | connect id true => .registered id ∈ es
  | disconnect id false => .leaving id ∈ es
  | disconnect id true => .forgotten id ∈ es
  | broadcast _ _ => True

/-- What happens besides does not change how far a call is. -/
theorem Call.Fits.cons {call : Call} {e : Event} {es : List Event} (h : call.Fits es)
    (hother : ∀ id, call = .connect id false → e ≠ .registered id) : call.Fits (e :: es) := by
  cases call with
  | broadcast offered delivered => trivial
  | connect id done =>
      cases done with
      | true => exact .tail _ h
      | false =>
          refine ⟨.tail _ h.1, ?_⟩
          rintro (⟨⟩ | ⟨-, hmem⟩)
          · exact hother id rfl rfl
          · exact h.2 hmem
  | disconnect id done => cases done <;> exact .tail _ h

namespace Exchange

variable {s s' : Exchange} {e : Event} {es : List Event} {thread other : Text} {call : Call}
  {id : ℕ}

/-! ## What a step does -/

theorem Step.ids (hstep : Step s e s') :
    s'.broadcaster.ids = e.idsAfter s.broadcaster.ids := by
  cases hstep with
  | connect hidle => exact s.broadcaster.ids_make
  | offer hcall hphase hnext => exact Broadcaster.ids_offer ..
  | receive htake => exact Broadcaster.ids_take ..
  | _ => rfl

/-- The next id is one more than the number of handles. -/
theorem Step.eq_of_made (hstep : Step s (.made id) s') : id = s.broadcaster.ids.length + 1 := by
  cases hstep with
  | connect hidle => exact congrArg (· + 1) (List.length_map ..).symm

theorem Step.registered (hstep : Step s e s') :
    s'.broadcaster.registered = e.registeredAfter s.broadcaster.registered := by
  cases hstep with
  | offer hcall hphase hnext => exact Broadcaster.registered_offer ..
  | receive htake => exact Broadcaster.registered_take ..
  | _ => rfl

theorem Step.given (hstep : Step s e s') : s'.given = e.givenAfter s.given := by
  cases hstep <;> rfl

/-- Only one thread has another call after a step. -/
theorem exists_mover {next : Option Call}
    (hcalls : ∀ other, s'.call? other = if other = thread then next else s.call? other)
    (htakes : ∀ call, next = some call → e.Takes (s.call? thread) call) :
    ∃ mover, ∀ other call, s'.call? other = some call →
      s.call? other = some call ∨ other = mover ∧ e.Takes (s.call? other) call := by
  refine ⟨thread, fun other call hcall => ?_⟩
  rw [hcalls] at hcall
  split at hcall
  next hother => exact .inr ⟨hother, hother ▸ htakes call hcall⟩
  next => exact .inl hcall

/-- The call of at most one thread goes on in a step, as its event says. -/
theorem Step.exists_mover (hstep : Step s e s') :
    ∃ mover, ∀ other call, s'.call? other = some call →
      s.call? other = some call ∨ other = mover ∧ e.Takes (s.call? other) call := by
  cases hstep with
  | connect hidle =>
      refine Exchange.exists_mover
        (call?_begin (s := { s with broadcaster := s.broadcaster.make.1 }) hidle _) ?_
      rintro call ⟨⟩
      exact hidle ▸ .made _
  | disconnect hidle hgiven =>
      refine Exchange.exists_mover (call?_begin hidle _) ?_
      rintro call ⟨⟩
      exact hidle ▸ .leaving _
  | broadcast hidle =>
      refine Exchange.exists_mover (call?_begin hidle _) ?_
      rintro call ⟨⟩
      exact .broadcast ..
  | register hcall hphase =>
      refine Exchange.exists_mover (call?_act hcall _ _) ?_
      rintro call ⟨⟩
      exact hcall ▸ .registered _
  | forget hcall hphase =>
      refine Exchange.exists_mover (call?_act hcall _ _) ?_
      rintro call ⟨⟩
      exact hcall ▸ .forgotten _
  | offer hcall hphase hnext =>
      refine Exchange.exists_mover (call?_act hcall _ _) ?_
      rintro call ⟨⟩
      exact .broadcast ..
  | connected hcall hphase => exact Exchange.exists_mover (call?_finish s _) nofun
  | disconnected hcall hphase => exact Exchange.exists_mover (call?_finish s _) nofun
  | finished hcall hphase hend => exact Exchange.exists_mover (call?_finish s _) nofun
  | comes hcall habsent => exact ⟨[], fun _ _ hother => .inl hother⟩
  | lookAgain hphase hwoken => exact ⟨[], fun _ _ hother => .inl hother⟩
  | receive htake => exact ⟨[], fun _ _ hother => .inl hother⟩
  | timeOut htake => exact ⟨[], fun _ _ hother => .inl hother⟩

/-- Somebody brings the client that is registered. -/
theorem Step.call?_of_registered (hstep : Step s (.registered id) s') :
    ∃ thread, s.call? thread = some (.connect id false) ∧
      s'.call? thread = some (.connect id true) := by
  cases hstep with
  | @register thread id hcall hphase =>
      exact ⟨thread, hcall, (call?_act hcall _ _ thread).trans (if_pos rfl)⟩

/-! ## What holds after every step -/

/-- Handles have ids of their own; what happened says which of them are registered, and how far the
    calls under way are. -/
structure Enrolled (es : List Event) (s : Exchange) : Prop where
  ids_eq : s.broadcaster.ids = List.range' 1 s.broadcaster.ids.length
  mem_ids_iff : ∀ id, id ∈ s.broadcaster.ids ↔ .made id ∈ es
  registered_nodup : s.broadcaster.registered.Nodup
  registered_iff : ∀ id, id ∈ s.broadcaster.registered ↔ .registered id ∈ es ∧ .forgotten id ∉ es
  /-- Nothing happened to a client before what comes before it. -/
  ordered : ∀ e ∈ es, ∀ earlier, e.before? = some earlier → earlier ∈ es
  given : ∀ id ∈ s.given, .connected id ∈ es
  fits : ∀ thread call, s.call? thread = some call → call.Fits es
  /-- No two threads bring the same client. -/
  alone : ∀ thread other id done done', s.call? thread = some (.connect id done) →
    s.call? other = some (.connect id done') → thread = other

namespace Enrolled

theorem connected (h : Enrolled es s) (id : ℕ) (hconnected : .connected id ∈ es) :
    .registered id ∈ es :=
  h.ordered _ hconnected _ rfl

theorem forgotten (h : Enrolled es s) (id : ℕ) (hforgotten : .forgotten id ∈ es) :
    .leaving id ∈ es :=
  h.ordered _ hforgotten _ rfl

theorem disconnected (h : Enrolled es s) (id : ℕ) (hdisconnected : .disconnected id ∈ es) :
    .forgotten id ∈ es :=
  h.ordered _ hdisconnected _ rfl

/-- Who was forgotten was registered. -/
theorem registered_of_forgotten (h : Enrolled es s) (hforgotten : .forgotten id ∈ es) :
    .registered id ∈ es :=
  h.connected id (h.ordered _ (h.forgotten id hforgotten) _ rfl)

theorem ids_nodup (h : Enrolled es s) : s.broadcaster.ids.Nodup := by
  rw [h.ids_eq]
  exact List.nodup_range'

theorem mem_ids (h : Enrolled es s) (hmem : id ∈ s.broadcaster.registered) :
    id ∈ s.broadcaster.ids :=
  (h.mem_ids_iff id).2 (h.ordered _ ((h.registered_iff id).1 hmem).1 _ rfl)

/-- The handle of a client that is brought is made. -/
theorem mem_ids_of_connect (h : Enrolled es s) {done : Bool}
    (hcall : s.call? thread = some (.connect id done)) : id ∈ s.broadcaster.ids := by
  rw [h.mem_ids_iff]
  cases done with
  | false => exact (h.fits thread _ hcall).1
  | true => exact h.ordered _ (h.fits thread _ hcall) _ rfl

/-- The next id is new. -/
theorem not_mem_ids_of_made (h : Enrolled es s) (hstep : Step s (.made id) s') :
    id ∉ s.broadcaster.ids := by
  rw [hstep.eq_of_made, h.ids_eq, List.length_range', List.mem_range'_1]
  omega

theorem start : Enrolled [] .start where
  ids_eq := rfl
  mem_ids_iff _ := iff_of_false List.not_mem_nil List.not_mem_nil
  registered_nodup := List.nodup_nil
  registered_iff _ := iff_of_false List.not_mem_nil fun h => List.not_mem_nil h.1
  ordered := nofun
  given := nofun
  fits := nofun
  alone := nofun

end Enrolled

/-! ## What one step preserves -/

/-- An event comes after what has to come before it. -/
theorem Step.mem_before (hstep : Step s e s') (h : Enrolled es s) {earlier : Event}
    (hearlier : e.before? = some earlier) : earlier ∈ es := by
  cases hstep with
  | register hcall hphase => cases hearlier; exact (h.fits _ _ hcall).1
  | connected hcall hphase => cases hearlier; exact h.fits _ _ hcall
  | disconnect hidle hgiven => cases hearlier; exact h.given _ hgiven
  | forget hcall hphase => cases hearlier; exact h.fits _ _ hcall
  | disconnected hcall hphase => cases hearlier; exact h.fits _ _ hcall
  | _ => cases hearlier

theorem Step.fits (hstep : Step s e s') (h : Enrolled es s)
    (hcall : s'.call? thread = some call) : call.Fits (e :: es) := by
  obtain ⟨mover, hmoves⟩ := hstep.exists_mover
  rcases hmoves thread call hcall with hstays | ⟨-, htakes⟩
  · refine Call.Fits.cons (h.fits thread call hstays) ?_
    rintro id rfl rfl
    -- Nobody else brings the client that is registered in this step.
    obtain ⟨bringer, hbefore, hafter⟩ := hstep.call?_of_registered
    obtain rfl := h.alone _ _ _ _ _ hbefore hstays
    cases hafter.symm.trans hcall
  · generalize s.call? thread = earlier at htakes
    cases htakes with
    | made id =>
        refine ⟨.head _, ?_⟩
        rintro (_ | ⟨-, hregistered⟩)
        have hmade := (h.mem_ids_iff id).2 (h.ordered _ hregistered _ rfl)
        exact h.not_mem_ids_of_made hstep hmade
    | registered id => exact .head _
    | leaving id => exact .head _
    | forgotten id => exact .head _
    | broadcast => trivial

/-- A client whose call goes on in a step is not brought by a thread whose call stays. -/
theorem Enrolled.eq_of_takes (h : Enrolled es s) (hstep : Step s e s') {done done' : Bool}
    (htakes : e.Takes (s.call? other) (.connect id done'))
    (hstays : s.call? thread = some (.connect id done)) : thread = other := by
  generalize hearlier : s.call? other = earlier at htakes
  cases htakes with
  | made => exact absurd (h.mem_ids_of_connect hstays) (h.not_mem_ids_of_made hstep)
  | registered => exact h.alone _ _ _ _ _ hstays hearlier

theorem Step.alone (hstep : Step s e s') (h : Enrolled es s) {done done' : Bool}
    (hthread : s'.call? thread = some (.connect id done))
    (hother : s'.call? other = some (.connect id done')) : thread = other := by
  obtain ⟨mover, hmoves⟩ := hstep.exists_mover
  rcases hmoves _ _ hthread with hstays | ⟨hmover, htakes⟩ <;>
    rcases hmoves _ _ hother with hstays' | ⟨hmover', htakes'⟩
  · exact h.alone _ _ _ _ _ hstays hstays'
  · exact h.eq_of_takes hstep htakes' hstays
  · exact (h.eq_of_takes hstep htakes hstays').symm
  · exact hmover.trans hmover'.symm

theorem Step.enrolled (hstep : Step s e s') (h : Enrolled es s) : Enrolled (e :: es) s' where
  ids_eq := by
    rw [hstep.ids]
    cases e with
    | made id =>
        rw [hstep.eq_of_made, Event.idsAfter, List.length_append, List.length_singleton,
          List.range'_concat, ← h.ids_eq, Nat.one_mul, Nat.add_comm 1]
    | _ => exact h.ids_eq
  mem_ids_iff id := by
    rw [hstep.ids]
    cases e <;> simp [Event.idsAfter, h.mem_ids_iff, or_comm]
  registered_nodup := by
    rw [hstep.registered]
    cases e with
    | registered id =>
        obtain ⟨thread, hcall, -⟩ := hstep.call?_of_registered
        have hnew : id ∉ s.broadcaster.registered := fun hmem =>
          (h.fits thread _ hcall).2 ((h.registered_iff id).1 hmem).1
        rw [Event.registeredAfter, ← List.concat_eq_append]
        exact h.registered_nodup.concat hnew
    | forgotten id => exact h.registered_nodup.filter _
    | _ => exact h.registered_nodup
  registered_iff id := by
    rw [hstep.registered]
    cases e with
    | registered new =>
        obtain ⟨thread, hcall, -⟩ := hstep.call?_of_registered
        have hfresh : .forgotten new ∉ es := fun hmem =>
          (h.fits thread _ hcall).2 (h.registered_of_forgotten hmem)
        by_cases hid : id = new
        · simp [Event.registeredAfter, hid, hfresh]
        · simp [Event.registeredAfter, hid, h.registered_iff]
    | forgotten gone =>
        by_cases hid : id = gone
        · simp [Event.registeredAfter, hid]
        · simp [Event.registeredAfter, hid, h.registered_iff]
    | _ => simp [Event.registeredAfter, h.registered_iff]
  ordered := by
    rintro e' (_ | ⟨-, hmem⟩) earlier hearlier
    · exact .tail _ (hstep.mem_before h hearlier)
    · exact .tail _ (h.ordered e' hmem earlier hearlier)
  given id hgiven := by
    rw [hstep.given] at hgiven
    cases e with
    | connected new =>
        rcases List.mem_append.1 hgiven with hbefore | hnew
        · exact .tail _ (h.given id hbefore)
        · rw [List.mem_singleton.1 hnew]
          exact .head _
    | _ => exact .tail _ (h.given id hgiven)
  fits _ _ hcall := hstep.fits h hcall
  alone _ _ _ _ _ hthread hother := hstep.alone h hthread hother

theorem Run.enrolled (h : Run es s) : Enrolled es s := by
  induction h with
  | start => exact .start
  | step _ hstep ih => exact hstep.enrolled ih

end Exchange
end LiveReload
end PageLoom
