import PageLoom.Proofs.LiveReload.Bystander

set_option autoImplicit false

/-! # What a stream writes, and what it leaves behind

A stream is looked at turn by turn (`Stream.rounds`). What a turn writes depends on the signal that
its wait brings and on what the stream sees after the wait (`Stream.Reply`), and a turn after which
the stream is over is the last one (`Stream.eq_nil_of_over`). In the registry the stream leaves
nothing behind: the others find it as if the stream's handle had never been registered. -/

namespace PageLoom
namespace LiveReload
namespace Stream

variable {keepAlive time : Float} {s w w' : Stream} {t : Turn} {turns : List Turn}
  {brought : Option Text} {texts : List Text}

/-! ## One turn -/

section Write

variable (s : Stream) (text : Text) (time : Float)

theorem write_of_broken {fault : WriteFault} (hbroken : s.peer.broken = some fault) :
    s.write text time = { s with fault := some fault } := by
  unfold write
  rw [hbroken]

theorem write_of_whole (hwhole : s.peer.broken = none) :
    s.write text time = { s with written := s.written ++ [text], lastWrite := time } := by
  unfold write
  rw [hwhole]

theorem id_write : (s.write text time).id = s.id := by
  unfold write
  split <;> rfl

theorem registry_write : (s.write text time).registry = s.registry := by
  unfold write
  split <;> rfl

theorem closing_write : (s.write text time).closing = s.closing := by
  unfold write
  split <;> rfl

theorem polls_write : (s.write text time).polls = s.polls := by
  unfold write
  split <;> rfl

end Write

theorem event_ne_ping (payload : Text) : event payload ≠ ping := by
  intro h
  have hevent : (event payload).head? = some 'd' := rfl
  have hping : ping.head? = some ':' := rfl
  rw [h, hping] at hevent
  cases hevent

/-- What a stream does after a wait: by the signal that the wait brought, what is sent, and the
    stream then. `w` is the stream when the wait is over, and `time` what the clock shows after a
    write. -/
inductive Reply (keepAlive : Float) (w : Stream) (time : Float) :
    Option Text → List Text → Stream → Prop where
  | told {payload : Text} (hwhole : w.peer.broken = none) :
      Reply keepAlive w time (some payload) [event payload]
        { w with written := w.written ++ [event payload], lastWrite := time }
  | untold {payload : Text} {fault : WriteFault} (hbroken : w.peer.broken = some fault) :
      Reply keepAlive w time (some payload) [] { w with fault := some fault }
  | left (hgone : w.peer.gone = true) : Reply keepAlive w time none [] { w with left := true }
  | pinged (hthere : w.peer.gone = false) (hquiet : w.isQuiet keepAlive = true)
      (hwhole : w.peer.broken = none) :
      Reply keepAlive w time none [ping]
        { w with written := w.written ++ [ping], lastWrite := time }
  | unpinged {fault : WriteFault} (hthere : w.peer.gone = false)
      (hquiet : w.isQuiet keepAlive = true) (hbroken : w.peer.broken = some fault) :
      Reply keepAlive w time none [] { w with fault := some fault }
  | silent (hthere : w.peer.gone = false) (hbusy : w.isQuiet keepAlive = false) :
      Reply keepAlive w time none [] w

theorem exists_reply (keepAlive : Float) (s : Stream) (t : Turn) :
    ∃ texts,
      Reply keepAlive (s.wait t).1 t.afterWrite (s.wait t).2 texts (s.turn keepAlive t) := by
  unfold turn
  split
  next w payload hwait =>
    rw [hwait]
    cases hpeer : w.peer.broken with
    | none =>
        rw [write_of_whole _ _ _ hpeer]
        exact ⟨_, .told hpeer⟩
    | some fault =>
        rw [write_of_broken _ _ _ hpeer]
        exact ⟨_, .untold hpeer⟩
  next w hwait =>
    rw [hwait]
    split
    next hgone => exact ⟨_, .left hgone⟩
    next hthere =>
      have hthere : w.peer.gone = false := Bool.eq_false_iff.2 hthere
      split
      next hquiet =>
        cases hpeer : w.peer.broken with
        | none =>
            rw [write_of_whole _ _ _ hpeer]
            exact ⟨_, .pinged hthere hquiet hpeer⟩
        | some fault =>
            rw [write_of_broken _ _ _ hpeer]
            exact ⟨_, .unpinged hthere hquiet hpeer⟩
      next hbusy => exact ⟨_, .silent hthere (Bool.eq_false_iff.2 hbusy)⟩

namespace Reply

theorem written_eq (h : Reply keepAlive w time brought texts w') :
    w'.written = w.written ++ texts := by
  cases h <;> simp

theorem lastWrite_eq (h : Reply keepAlive w time brought texts w') :
    w'.lastWrite = if texts.isEmpty then w.lastWrite else time := by
  cases h <;> rfl

theorem registry_eq (h : Reply keepAlive w time brought texts w') : w'.registry = w.registry := by
  cases h <;> rfl

theorem id_eq (h : Reply keepAlive w time brought texts w') : w'.id = w.id := by
  cases h <;> rfl

theorem polls_eq (h : Reply keepAlive w time brought texts w') : w'.polls = w.polls := by
  cases h <;> rfl

/-- A stream is over once the server closes, its peer is seen to have gone, or a write fails. -/
theorem over_eq (h : Reply keepAlive w time brought texts w') (hon : w.left = false)
    (hwhole : w.fault = none) :
    w'.isOver = (w.closing || (brought.isNone && w.peer.gone) || w'.fault.isSome) := by
  cases h <;> simp_all [isOver]

theorem texts_of_signal {payload : Text} (h : Reply keepAlive w time (some payload) texts w') :
    texts = if w.peer.broken.isSome then [] else [event payload] := by
  cases h with
  | told hwhole => simp [hwhole]
  | untold hbroken => simp [hbroken]

theorem texts_of_silence (h : Reply keepAlive w time none texts w') :
    texts = [] ∨ texts = [ping] := by
  cases h with
  | pinged hthere hquiet hwhole => exact .inr rfl
  | _ => exact .inl rfl

theorem quiet_of_ping (h : Reply keepAlive w time brought texts w') (hping : ping ∈ texts) :
    brought = none ∧ w.peer.gone = false ∧ w.isQuiet keepAlive = true := by
  cases h with
  | told hwhole => exact absurd (List.mem_singleton.1 hping).symm (event_ne_ping _)
  | pinged hthere hquiet hwhole => exact ⟨rfl, hthere, hquiet⟩
  | _ => cases hping

theorem broken_of_fault (h : Reply keepAlive w time brought texts w') (hwhole : w.fault = none)
    (hfault : w'.fault.isSome = true) : w'.fault = w.peer.broken ∧ texts = [] := by
  cases h with
  | untold hbroken => exact ⟨hbroken.symm, rfl⟩
  | unpinged hthere hquiet hbroken => exact ⟨hbroken.symm, rfl⟩
  | _ => simp [hwhole] at hfault

end Reply

/-! ## Turn after turn -/

/-- A turn that a stream took, and the stream as it stood before. -/
structure Round where
  turn : Turn
  before : Stream

namespace Round

variable (keepAlive : Float) (r : Round)

/-- The stream when the wait is over. -/
def seen : Stream := (r.before.wait r.turn).1

/-- The signal that the wait brought. -/
def signal : Option Text := (r.before.wait r.turn).2

/-- The stream after the turn. -/
def after : Stream := r.before.turn keepAlive r.turn

/-- What the turn wrote. -/
def sent : List Text := (r.after keepAlive).written.drop r.before.written.length

theorem reply :
    Reply keepAlive r.seen r.turn.afterWrite r.signal (r.sent keepAlive) (r.after keepAlive) := by
  obtain ⟨texts, h⟩ := exists_reply keepAlive r.before r.turn
  have hwritten : (r.after keepAlive).written = r.before.written ++ texts := h.written_eq
  have hsent : r.sent keepAlive = texts := by
    unfold sent
    rw [hwritten, List.drop_left]
  rw [hsent]
  exact h

theorem written_after :
    (r.after keepAlive).written = r.before.written ++ r.sent keepAlive :=
  (r.reply keepAlive).written_eq

end Round

/-- The turns that a stream takes until it is over. -/
def rounds (keepAlive : Float) : Stream → List Turn → List Round
  | _, [] => []
  | s, t :: rest => if s.isOver then [] else ⟨t, s⟩ :: rounds keepAlive (s.turn keepAlive t) rest

/-- What the clock showed after the last write. -/
def lastWriteAfter (keepAlive time : Float) (rs : List Round) : Float :=
  rs.foldl (fun time r => if (r.sent keepAlive).isEmpty then time else r.turn.afterWrite) time

theorem rounds_of_over (hover : s.isOver = true) (turns : List Turn) :
    rounds keepAlive s turns = [] := by
  cases turns with
  | nil => rfl
  | cons t rest => exact if_pos hover

theorem rounds_cons (hon : s.isOver = false) (t : Turn) (turns : List Turn) :
    rounds keepAlive s (t :: turns) = ⟨t, s⟩ :: rounds keepAlive (s.turn keepAlive t) turns := by
  rw [rounds, if_neg (by simp [hon])]

theorem rounds_eq_cons {r : Round} {rs : List Round} (h : rounds keepAlive s turns = r :: rs) :
    ∃ t rest, turns = t :: rest ∧ s.isOver = false ∧ r = ⟨t, s⟩ ∧
      rs = rounds keepAlive (s.turn keepAlive t) rest := by
  cases turns with
  | nil => cases h
  | cons t rest =>
      cases hover : s.isOver with
      | true =>
          rw [rounds_of_over hover] at h
          cases h
      | false =>
          rw [rounds_cons hover] at h
          obtain ⟨rfl, rfl⟩ := List.cons.inj h
          exact ⟨t, rest, rfl, rfl, rfl, rfl⟩

/-- What holds of every turn of a stream: `I` is kept from turn to turn, and is about the stream
    before a turn and the turns that are left. -/
theorem forall_mem_rounds {P : Round → Prop} {I : Stream → List Turn → Prop}
    (hstep : ∀ s t rest, I s (t :: rest) → P ⟨t, s⟩ ∧ I (s.turn keepAlive t) rest)
    (h : I s turns) : ∀ r ∈ rounds keepAlive s turns, P r := by
  intro r hr
  induction turns generalizing s with
  | nil => cases hr
  | cons t rest ih =>
      obtain ⟨hfirst, hrest⟩ := hstep s t rest h
      cases hover : s.isOver with
      | true =>
          rw [rounds_of_over hover] at hr
          cases hr
      | false =>
          rw [rounds_cons hover] at hr
          rcases List.mem_cons.1 hr with rfl | hr
          · exact hfirst
          · exact ih hrest hr

/-- The turns taken are the first ones, in their order. -/
theorem turns_rounds (s : Stream) (turns : List Turn) :
    (rounds keepAlive s turns).map Round.turn <+: turns := by
  induction turns generalizing s with
  | nil => exact List.prefix_rfl
  | cons t rest ih =>
      cases hover : s.isOver with
      | true =>
          rw [rounds_of_over hover]
          exact List.nil_prefix
      | false =>
          rw [rounds_cons hover, List.map_cons]
          exact List.cons_prefix_cons.2 ⟨rfl, ih _⟩

/-- What a stream has written at its end. -/
theorem written_follow (keepAlive : Float) (s : Stream) (turns : List Turn) :
    (s.follow keepAlive turns).written =
      s.written ++ (rounds keepAlive s turns).flatMap (Round.sent keepAlive) := by
  induction turns generalizing s with
  | nil => simp [follow, rounds]
  | cons t rest ih =>
      rw [follow]
      cases hover : s.isOver with
      | true => simp [rounds_of_over hover]
      | false =>
          have hwritten := Round.written_after keepAlive ⟨t, s⟩
          rw [rounds_cons hover, List.flatMap_cons, ← List.append_assoc, ← hwritten]
          exact ih _

theorem polls_follow (keepAlive : Float) (s : Stream) (turns : List Turn) :
    (s.follow keepAlive turns).polls = s.polls + (rounds keepAlive s turns).length := by
  induction turns generalizing s with
  | nil => rfl
  | cons t rest ih =>
      rw [follow]
      cases hover : s.isOver with
      | true => simp [rounds_of_over hover]
      | false =>
          have hpolls : (s.turn keepAlive t).polls = s.polls + 1 :=
            (Round.reply keepAlive ⟨t, s⟩).polls_eq
          rw [rounds_cons hover, List.length_cons, if_neg Bool.false_ne_true, ih, hpolls]
          omega

/-- A stream that goes on takes its turns one from the other. -/
theorem rounds_eq_append_cons {before after : List Round} {r : Round}
    (h : rounds keepAlive s turns = before ++ r :: after) :
    r.before.isOver = false ∧ r.before.id = s.id ∧
      r.before.lastWrite = lastWriteAfter keepAlive s.lastWrite before ∧
      ∃ rest, after = rounds keepAlive (r.after keepAlive) rest := by
  induction before generalizing s turns with
  | nil =>
      obtain ⟨t, rest, -, hon, rfl, rfl⟩ := rounds_eq_cons h
      exact ⟨hon, rfl, rfl, rest, rfl⟩
  | cons r₀ before ih =>
      obtain ⟨t, rest, -, -, rfl, hrest⟩ := rounds_eq_cons h
      have hreply := Round.reply keepAlive ⟨t, s⟩
      obtain ⟨hon, hid, htime, hafter⟩ := ih hrest.symm
      refine ⟨hon, hid.trans hreply.id_eq, ?_, hafter⟩
      have hlast : (s.turn keepAlive t).lastWrite = _ := hreply.lastWrite_eq
      rw [htime, hlast]
      rfl

/-- A stream that is not over takes all its turns, or those up to one after which it is over. -/
theorem rounds_ended (keepAlive : Float) (s : Stream) (turns : List Turn) :
    (rounds keepAlive s turns).map Round.turn = turns ∨ s.isOver = true ∨
      ∃ before r, rounds keepAlive s turns = before ++ [r] ∧ (r.after keepAlive).isOver = true := by
  induction turns generalizing s with
  | nil => exact .inl rfl
  | cons t rest ih =>
      cases hover : s.isOver with
      | true => exact .inr (.inl rfl)
      | false =>
          rw [rounds_cons hover]
          rcases ih (s.turn keepAlive t) with hall | hafter | ⟨before, r, hrounds, hafter⟩
          · exact .inl (congrArg (t :: ·) hall)
          · rw [rounds_of_over hafter]
            exact .inr (.inr ⟨[], ⟨t, s⟩, rfl, hafter⟩)
          · rw [hrounds]
            exact .inr (.inr ⟨⟨t, s⟩ :: before, r, rfl, hafter⟩)

/-- Nothing comes after a turn after which the stream is over. -/
theorem eq_nil_of_over {before after : List Round} {r : Round}
    (h : rounds keepAlive s turns = before ++ r :: after)
    (hover : (r.after keepAlive).isOver = true) : after = [] := by
  obtain ⟨-, -, -, rest, rfl⟩ := rounds_eq_append_cons h
  exact rounds_of_over hover rest

theorem Round.left_seen {r : Round} (hon : r.before.isOver = false) : r.seen.left = false := by
  simp only [isOver, Bool.or_eq_false_iff] at hon
  exact hon.1.2

theorem Round.fault_seen {r : Round} (hon : r.before.isOver = false) : r.seen.fault = none := by
  simp only [isOver, Bool.or_eq_false_iff, Option.isSome_eq_false_iff,
    Option.isNone_iff_eq_none] at hon
  exact hon.2

/-- Why a stream may be over after a turn: the server is closing, the peer is seen to have gone, or
    a write failed. -/
def Round.Ends (keepAlive : Float) (r : Round) : Prop :=
  r.seen.closing = true ∨ (r.signal = none ∧ r.seen.peer.gone = true) ∨
    (r.after keepAlive).fault.isSome = true

theorem Round.ends_iff {r : Round} (hon : r.before.isOver = false) :
    r.Ends keepAlive ↔ (r.after keepAlive).isOver = true := by
  rw [(r.reply keepAlive).over_eq (left_seen hon) (fault_seen hon), Ends]
  simp [or_assoc]

/-- What the turns of a stream write. `time` is the clock after the write before them. -/
structure Transcript (keepAlive time : Float) (turns : List Turn) (rs : List Round) : Prop where
  /-- The turns are taken in their order. -/
  inOrder : rs.map Round.turn <+: turns
  /-- A signal is told in one event, unless that write fails. -/
  told : ∀ r ∈ rs, ∀ payload, r.signal = some payload →
    r.sent keepAlive = if r.seen.peer.broken.isSome then [] else [event payload]
  /-- Without a signal there is nothing to tell. -/
  untold : ∀ r ∈ rs, r.signal = none → r.sent keepAlive = [] ∨ r.sent keepAlive = [ping]
  /-- A comment is written only to a peer that is there, after a time in which nothing was. -/
  pinged : ∀ before r after, rs = before ++ r :: after → ping ∈ r.sent keepAlive →
    r.signal = none ∧ r.seen.peer.gone = false ∧
      keepAlive ≤ r.turn.now - lastWriteAfter keepAlive time before
  /-- A write fails only on a broken connection, and leaves nothing written. -/
  failed : ∀ r ∈ rs, (r.after keepAlive).fault.isSome = true →
    (r.after keepAlive).fault = r.seen.peer.broken ∧ r.sent keepAlive = []
  /-- After a turn that ends the stream, nothing comes. -/
  last : ∀ before r after, rs = before ++ r :: after → r.Ends keepAlive → after = []

theorem transcript_rounds (keepAlive : Float) (s : Stream) (turns : List Turn) :
    Transcript keepAlive s.lastWrite turns (rounds keepAlive s turns) where
  inOrder := turns_rounds s turns
  told := by
    intro r hr payload hsignal
    have hreply := r.reply keepAlive
    rw [hsignal] at hreply
    exact hreply.texts_of_signal
  untold := by
    intro r hr hsignal
    have hreply := r.reply keepAlive
    rw [hsignal] at hreply
    exact hreply.texts_of_silence
  pinged := by
    intro before r after hsplit hping
    obtain ⟨hsignal, hthere, hquiet⟩ := (r.reply keepAlive).quiet_of_ping hping
    obtain ⟨-, -, htime, -⟩ := rounds_eq_append_cons hsplit
    refine ⟨hsignal, hthere, ?_⟩
    rw [← htime]
    exact of_decide_eq_true hquiet
  failed := by
    intro r hr hfault
    obtain ⟨before, after, hsplit⟩ := List.append_of_mem hr
    have hon := (rounds_eq_append_cons hsplit).1
    exact (r.reply keepAlive).broken_of_fault (Round.fault_seen hon) hfault
  last := by
    intro before r after hsplit hends
    exact eq_nil_of_over hsplit ((Round.ends_iff (rounds_eq_append_cons hsplit).1).1 hends)

/-! ## The registry -/

/-- The registry that a stream sees when a wait is over, and leaves as it is. -/
theorem registry_turn (s : Stream) (keepAlive : Float) (t : Turn) :
    (s.turn keepAlive t).registry = ((s.registry.afterAll t.deeds).take s.id).1 :=
  (Round.reply keepAlive ⟨t, s⟩).registry_eq

theorem id_turn (s : Stream) (keepAlive : Float) (t : Turn) : (s.turn keepAlive t).id = s.id :=
  (Round.reply keepAlive ⟨t, s⟩).id_eq

/-- A stream's handle is registered for as long as the stream lasts. -/
theorem registered_of_stays (hregistered : s.id ∈ s.registry.registered)
    (hstays : .disconnect s.id ∉ turns.flatMap Turn.deeds) :
    ∀ r ∈ rounds keepAlive s turns, s.id ∈ r.seen.registry.registered := by
  -- `Deed.disconnect` speaks of the handle of the first stream, so this one is named
  set id := s.id with hid
  refine forall_mem_rounds (I := fun s rest => s.id = id ∧ id ∈ s.registry.registered ∧
    .disconnect id ∉ rest.flatMap Turn.deeds) ?_ ⟨hid.symm, hregistered, hstays⟩
  rintro s t rest ⟨hid, hregistered, hstays⟩
  rw [List.flatMap_cons, List.mem_append, not_or] at hstays
  have hseen : id ∈ ((s.registry.afterAll t.deeds).take s.id).1.registered := by
    rw [Broadcaster.registered_take]
    exact Broadcaster.mem_registered_afterAll hregistered hstays.1
  refine ⟨hseen, (id_turn s keepAlive t).trans hid, ?_, hstays.2⟩
  rw [registry_turn]
  exact hseen

theorem beside_turn {c : Broadcaster} (h : Broadcaster.Beside s.id s.registry c)
    (keepAlive : Float) (t : Turn) :
    Broadcaster.Beside s.id (s.turn keepAlive t).registry (c.afterAll t.deeds) := by
  rw [registry_turn]
  exact (h.afterAll t.deeds).take s.id

/-- What others did while a stream lasted is all that changed for them. -/
theorem beside_follow {c : Broadcaster} (h : Broadcaster.Beside s.id s.registry c)
    (keepAlive : Float) (turns : List Turn) :
    Broadcaster.Beside s.id (s.follow keepAlive turns).registry
      (c.afterAll ((rounds keepAlive s turns).flatMap fun r => r.turn.deeds)) := by
  induction turns generalizing s c with
  | nil => exact h
  | cons t rest ih =>
      rw [follow]
      cases hover : s.isOver with
      | true =>
          rw [rounds_of_over hover]
          exact h
      | false =>
          -- the induction is on the turns that are left, for a stream that keeps its handle
          have hid := id_turn s keepAlive t
          have hturn := beside_turn h keepAlive t
          rw [← hid] at hturn
          have hrest := ih hturn
          rw [hid] at hrest
          rw [rounds_cons hover, List.flatMap_cons, Broadcaster.afterAll_append]
          exact hrest

theorem id_follow (s : Stream) (turns : List Turn) : (s.follow keepAlive turns).id = s.id := by
  induction turns generalizing s with
  | nil => rfl
  | cons t rest ih =>
      rw [follow]
      split
      · rfl
      · rw [ih, id_turn]

/-- The signals that a stream gets are among those that were kept or are offered meanwhile. -/
theorem signal_of_keepsOnly {P : Text → Prop} (hkeeps : s.registry.KeepsOnly P)
    (hoffers : ∀ id payload, .offer id payload ∈ turns.flatMap Turn.deeds → P payload) :
    ∀ r ∈ rounds keepAlive s turns, ∀ payload, r.signal = some payload → P payload := by
  refine forall_mem_rounds (I := fun s rest => s.registry.KeepsOnly P ∧
    ∀ id payload, .offer id payload ∈ rest.flatMap Turn.deeds → P payload) ?_ ⟨hkeeps, hoffers⟩
  rintro s t rest ⟨hkeeps, hoffers⟩
  rw [List.flatMap_cons] at hoffers
  have hwaited : (s.registry.afterAll t.deeds).KeepsOnly P :=
    hkeeps.afterAll t.deeds fun id payload hmem =>
      hoffers id payload (List.mem_append_left _ hmem)
  refine ⟨fun payload hsignal => hwaited.taken hsignal, ?_, fun id payload hmem =>
    hoffers id payload (List.mem_append_right _ hmem)⟩
  rw [registry_turn]
  exact hwaited.take s.id

/-! ## Whole streams -/

/-- The stream of a client that has just come. -/
def greeted (b : Broadcaster) (time : Float) (peer : Peer) (closing : Bool) : Stream :=
  (opened b.connect.1 b.connect.2 time peer closing).write connected time

theorem greeted_of_broken {peer : Peer} {fault : WriteFault} (hbroken : peer.broken = some fault)
    (b : Broadcaster) (time : Float) (closing : Bool) :
    greeted b time peer closing =
      { opened b.connect.1 b.connect.2 time peer closing with fault := some fault } :=
  write_of_broken _ _ _ hbroken

theorem greeted_of_whole {peer : Peer} (hwhole : peer.broken = none) (b : Broadcaster)
    (time : Float) (closing : Bool) :
    greeted b time peer closing =
      { opened b.connect.1 b.connect.2 time peer closing with written := [connected] } :=
  write_of_whole _ _ _ hwhole

theorem lastWrite_greeted (b : Broadcaster) (time : Float) (peer : Peer) (closing : Bool) :
    (greeted b time peer closing).lastWrite = time := by
  cases hpeer : peer.broken with
  | none => rw [greeted_of_whole hpeer]; rfl
  | some fault => rw [greeted_of_broken hpeer]; rfl

/-- What a stream means for the registry. Others have used it before (`past`); `s` is the stream
    when its handle is forgotten, and `rs` are the turns that it took. -/
structure LeavesNoTrace (past : List Deed) (turns : List Turn) (late : List Deed) (s : Stream)
    (rs : List Round) : Prop where
  handle : s.id = (Broadcaster.empty.afterAll past).connect.2
  /-- The handle is registered throughout, unless others forget what is not theirs. -/
  registered : .disconnect s.id ∉ turns.flatMap Turn.deeds →
    ∀ r ∈ rs, s.id ∈ r.seen.registry.registered
  forgotten : s.id ∉ s.registry.registered
  /-- The others are registered as if the stream's handle had been made, but never registered. -/
  others : s.registry.registered =
    ((Broadcaster.empty.afterAll past).make.1.afterAll
      ((rs.flatMap fun r => r.turn.deeds) ++ late)).registered

theorem leavesNoTrace_attend (past : List Deed) (keepAlive time : Float) (peer : Peer)
    (closing : Bool) (turns : List Turn) (late : List Deed) :
    LeavesNoTrace past turns late
      (attend (Broadcaster.empty.afterAll past) keepAlive time peer closing turns late)
      (rounds keepAlive (greeted (Broadcaster.empty.afterAll past) time peer closing) turns) := by
  set b := Broadcaster.empty.afterAll past with hb
  set s := greeted b time peer closing with hs
  have hid : s.id = b.connect.2 := id_write _ _ _
  have hend : (attend b keepAlive time peer closing turns late).id = b.connect.2 :=
    (id_follow s turns).trans hid
  have hregistry : (attend b keepAlive time peer closing turns late).registry =
      ((s.follow keepAlive turns).registry.afterAll late).disconnect b.connect.2 := rfl
  have hbeside : Broadcaster.Beside b.connect.2 ((s.follow keepAlive turns).registry.afterAll late)
      (b.make.1.afterAll (((rounds keepAlive s turns).flatMap fun r => r.turn.deeds) ++ late)) := by
    have hstart : Broadcaster.Beside s.id s.registry b.make.1 := by
      rw [hid, hs, greeted, registry_write]
      exact .connect (Broadcaster.sound_empty.afterAll past)
    have hfollow := beside_follow hstart keepAlive turns
    rw [hid] at hfollow
    rw [Broadcaster.afterAll_append]
    exact hfollow.afterAll late
  constructor
  case handle => exact hend
  case registered =>
    have hregistered : s.id ∈ s.registry.registered := by
      rw [hid, hs, greeted, registry_write]
      exact List.mem_append_right _ List.mem_cons_self
    rw [hend, ← hid]
    exact registered_of_stays hregistered
  case forgotten =>
    rw [hend, hregistry]
    simp [Broadcaster.disconnect]
  case others =>
    rw [hregistry]
    exact hbeside.registered_disconnect

/-- What a stream leaves behind, and what it wrote. -/
structure Attended (past : List Deed) (keepAlive time : Float) (peer : Peer) (closing : Bool)
    (turns : List Turn) (late : List Deed) (s : Stream) (rs : List Round) : Prop where
  registry : LeavesNoTrace past turns late s rs
  /-- When the first write fails, nothing is written, and no signal is waited for. -/
  refused : peer.broken.isSome = true → s.written = [] ∧ rs = []
  /-- A server that is closing already makes no stream wait. -/
  closed : closing = true → rs = []
  /-- Otherwise a stream takes all its turns, or those up to one that ends it. -/
  ended : rs.map Round.turn = turns ∨ closing = true ∨ peer.broken.isSome = true ∨
    ∃ before r, rs = before ++ [r] ∧ r.Ends keepAlive
  written : peer.broken = none → s.written = connected :: rs.flatMap (Round.sent keepAlive)
  polls : s.polls = rs.length
  transcript : Transcript keepAlive time turns rs
  /-- Where others offer nothing but the signal to reload, that is what is told. -/
  reloads : (∀ id payload, .offer id payload ∈ past ++ turns.flatMap Turn.deeds →
      payload = reloadSignal) →
    ∀ r ∈ rs, ∀ payload, r.signal = some payload → event payload = "data: reload\n\n".toList

/-- **A stream tells what it is signalled, and nothing else, and its handle is forgotten.** This
    holds whatever others do in the registry, whatever the clock shows, and whichever way the stream
    ends. -/
theorem attended_attend (past : List Deed) (keepAlive time : Float) (peer : Peer) (closing : Bool)
    (turns : List Turn) (late : List Deed) :
    Attended past keepAlive time peer closing turns late
      (attend (Broadcaster.empty.afterAll past) keepAlive time peer closing turns late)
      (rounds keepAlive (greeted (Broadcaster.empty.afterAll past) time peer closing) turns) := by
  have hregistry := leavesNoTrace_attend past keepAlive time peer closing turns late
  set b := Broadcaster.empty.afterAll past with hb
  set s := greeted b time peer closing with hs
  have hwritten : (attend b keepAlive time peer closing turns late).written =
      s.written ++ (rounds keepAlive s turns).flatMap (Round.sent keepAlive) :=
    written_follow keepAlive s turns
  have hpolls : (attend b keepAlive time peer closing turns late).polls =
      s.polls + (rounds keepAlive s turns).length := polls_follow keepAlive s turns
  constructor
  case registry => exact hregistry
  case refused =>
    intro hbroken
    obtain ⟨fault, hfault⟩ := Option.isSome_iff_exists.1 hbroken
    have hgreeted := greeted_of_broken hfault b time closing
    have hover : s.isOver = true := by
      rw [hs, hgreeted]
      exact Bool.or_true _
    rw [hwritten, rounds_of_over hover, hs, hgreeted]
    exact ⟨rfl, rfl⟩
  case closed =>
    intro hclosing
    refine rounds_of_over ?_ turns
    have hseen : s.closing = true := (closing_write ..).trans hclosing
    simp [isOver, hseen]
  case ended =>
    have hended := rounds_ended keepAlive s turns
    rcases hended with hall | hover | ⟨before, r, hrounds, hover⟩
    · exact .inl hall
    · cases hpeer : peer.broken with
      | none =>
          have hseen : s.isOver = closing := by
            rw [hs, greeted_of_whole hpeer]
            simp [isOver, opened]
          exact .inr (.inl (hseen.symm.trans hover))
      | some fault => exact .inr (.inr (.inl rfl))
    · refine .inr (.inr (.inr ⟨before, r, hrounds, ?_⟩))
      exact (Round.ends_iff (rounds_eq_append_cons hrounds).1).2 hover
  case written =>
    intro hwhole
    rw [hwritten, hs, greeted_of_whole hwhole]
    rfl
  case polls =>
    have hnone : s.polls = 0 := polls_write _ _ _
    rw [hpolls, hnone, Nat.zero_add]
  case transcript =>
    have htranscript := transcript_rounds keepAlive s turns
    rw [hs, lastWrite_greeted] at htranscript
    exact htranscript
  case reloads =>
    intro hoffers r hr payload hsignal
    have hkeeps : s.registry.KeepsOnly (· = reloadSignal) := by
      rw [hs, greeted, registry_write]
      refine Broadcaster.KeepsOnly.after ?_ .connect nofun
      exact Broadcaster.keepsOnly_empty.afterAll past fun id payload hmem =>
        hoffers id payload (List.mem_append_left _ hmem)
    obtain rfl := signal_of_keepsOnly hkeeps
      (fun id payload hmem => hoffers id payload (List.mem_append_right _ hmem))
      r hr payload hsignal
    rfl

/-- The second turn brings nothing for a while, and in the third the peer has gone. -/
example : (attend .empty 15.0 0.0 {} false
    [{ deeds := [.connect, .offer 1 reloadSignal], now := 1.0, afterWrite := 1.0 },
      { deeds := [.disconnect 2], now := 16.0, afterWrite := 16.5 },
      { closed := true, deeds := [], now := 40.0, afterWrite := 40.0 }] []).written =
    [connected, event reloadSignal, ping] := by
  decide +kernel

end Stream
end LiveReload
end PageLoom
