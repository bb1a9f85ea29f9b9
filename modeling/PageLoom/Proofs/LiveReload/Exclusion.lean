import PageLoom.LiveReload.Lock
import PageLoom.Proofs.Keyed

set_option autoImplicit false

/-! # Who may be inside the lock

Clients come, look again when they were woken, and leave, in any order. What the lock counts is who
is there (`Balanced`), and while nobody is inside, a client that sleeps is a reader behind a writer
that waits (`Alert`): whoever was inside last woke all that were blocked then, and only a reader can
find the lock shut after that. A reader that sleeps is therefore owed its waking by a writer that is
awake. -/

namespace PageLoom
namespace LiveReload

namespace LockPhase

/-- Whether a client waits to write. -/
def waitsToWrite : LockPhase → Bool
  | blockedWriter _ => true
  | _ => false

/-- Whether a blocked client was woken and is about to look again. -/
def isWoken : LockPhase → Bool
  | blockedReader woken | blockedWriter woken => woken
  | _ => false

/-- Whether a blocked client was not woken. -/
def sleeps : LockPhase → Bool
  | blockedReader woken | blockedWriter woken => !woken
  | _ => false

/-- Whether a client came to write. -/
def writes : LockPhase → Bool
  | blockedWriter _ | writing => true
  | _ => false

/-- A blocked client enters. -/
def enter : LockPhase → LockPhase
  | blockedReader _ | reading => reading
  | blockedWriter _ | writing => writing

/-- A blocked client waits to be woken. -/
def rest : LockPhase → LockPhase
  | blockedReader _ => blockedReader false
  | blockedWriter _ => blockedWriter false
  | p => p

theorem holds_eq_false_of_isWoken {p : LockPhase} (h : p.isWoken = true) : p.holds = false := by
  cases p with
  | blockedReader woken => rfl
  | blockedWriter woken => rfl
  | reading => cases h
  | writing => cases h

theorem not_sleeps_wake (p : LockPhase) : p.wake.sleeps = false := by
  cases p <;> rfl

theorem wake_eq_reading_iff (p : LockPhase) : p.wake = .reading ↔ p = .reading := by
  cases p <;> simp [wake]

theorem wake_eq_writing_iff (p : LockPhase) : p.wake = .writing ↔ p = .writing := by
  cases p <;> simp [wake]

theorem wake_of_holds {p : LockPhase} (h : p.holds = true) : p.wake = p := by
  cases p with
  | blockedReader woken => cases h
  | blockedWriter woken => cases h
  | reading => rfl
  | writing => rfl

theorem writes_enter (p : LockPhase) : p.enter.writes = p.writes := by
  cases p <;> rfl

theorem writes_rest (p : LockPhase) : p.rest.writes = p.writes := by
  cases p <;> rfl

theorem writes_wake (p : LockPhase) : p.wake.writes = p.writes := by
  cases p <;> rfl

end LockPhase

namespace Lock

/-! ## Clients by name -/

variable {l l' : Lock} {name other : Text} {p : LockPhase}

theorem phase?_eq_none_iff : l.phase? name = none ↔ name ∉ l.clients.map Prod.fst :=
  Keyed.value?_eq_none_iff

theorem mem_clients_iff (hnames : (l.clients.map Prod.fst).Nodup) :
    (name, p) ∈ l.clients ↔ l.phase? name = some p :=
  Keyed.mem_iff_value? hnames

/-- The lock with one more client. -/
def arrive (l : Lock) (name : Text) (p : LockPhase) : Lock :=
  { l with clients := l.clients ++ [(name, p)] }

theorem phase?_arrive (h : l.phase? name = none) :
    (l.arrive name p).phase? other = if other = name then some p else l.phase? other :=
  Keyed.value?_append_single h

theorem setPhase_clients (l : Lock) (name : Text) (p : LockPhase) :
    (l.setPhase name p).clients = Keyed.put Prod.fst (name, p) l.clients := rfl

theorem phase?_setPhase (h : l.phase? name = some p) (r : LockPhase) :
    (l.setPhase name r).phase? other = if other = name then some r else l.phase? other :=
  Keyed.value?_put h

theorem phase?_wakeAll (l : Lock) (name : Text) :
    l.wakeAll.phase? name = (l.phase? name).map LockPhase.wake := by
  unfold phase? wakeAll
  rw [List.find?_map, Option.map_map, Option.map_map]
  rfl

/-! ## How many clients stand where -/

/-- The number of clients in a phase that satisfies a condition. -/
def count (q : LockPhase → Bool) (l : Lock) : ℕ := l.clients.countP fun c => q c.2

variable {q : LockPhase → Bool}

theorem count_eq_sum : l.count q = (l.clients.map fun c => (q c.2).toNat).sum := by
  unfold count
  induction l.clients with
  | nil => rfl
  | cons c rest ih =>
      rw [List.countP_cons, List.map_cons, List.sum_cons, ih]
      cases q c.2 <;> simp [Nat.add_comm]

theorem count_arrive : (l.arrive name p).count q = l.count q + (q p).toNat := by
  unfold count arrive
  rw [List.countP_append]
  cases h : q p <;> simp [h]

theorem count_setPhase (hnames : (l.clients.map Prod.fst).Nodup) (h : l.phase? name = some p)
    (q : LockPhase → Bool) (r : LockPhase) :
    (l.setPhase name r).count q + (q p).toNat = l.count q + (q r).toNat := by
  rw [count_eq_sum, count_eq_sum]
  exact Keyed.sum_put (a := (name, r)) hnames (Keyed.value?_eq_some_iff.1 h) fun c => (q c.2).toNat

theorem count_wakeAll (h : ∀ p : LockPhase, q p.wake = q p) : l.wakeAll.count q = l.count q := by
  unfold count wakeAll
  rw [List.countP_map]
  exact List.countP_congr fun c _ => by simp [h]

theorem count_pos_iff (hnames : (l.clients.map Prod.fst).Nodup) :
    0 < l.count q ↔ ∃ name p, l.phase? name = some p ∧ q p = true := by
  unfold count
  rw [List.countP_pos_iff]
  constructor
  · rintro ⟨⟨name, p⟩, hmem, hq⟩
    exact ⟨name, p, (mem_clients_iff hnames).1 hmem, hq⟩
  · rintro ⟨name, p, hphase, hq⟩
    exact ⟨(name, p), (mem_clients_iff hnames).2 hphase, hq⟩

/-! ## What clients do -/

/-- Whether a blocked client may enter. -/
def admits (l : Lock) : LockPhase → Bool
  | .blockedReader _ => l.admitsReader
  | .blockedWriter _ => l.admitsWriter
  | _ => false

/-- What one client does next: it comes, it looks again when it was woken, or it leaves. -/
inductive Step : Lock → Lock → Prop where
  | read {l : Lock} {name : Text} (habsent : l.phase? name = none) : Step l (l.read name)
  | write {l : Lock} {name : Text} (habsent : l.phase? name = none) : Step l (l.write name)
  | lookAgain {l : Lock} {name : Text} {p : LockPhase} (hphase : l.phase? name = some p)
      (hwoken : p.isWoken = true) : Step l (l.lookAgain name)
  | leave {l : Lock} {name : Text} {p : LockPhase} (hphase : l.phase? name = some p)
      (hholds : p.holds = true) : Step l (l.leave name)

/-- The lock after any number of clients did what they do, in any order. -/
inductive Reachable : Lock → Prop where
  | free : Reachable .free
  | step {l l' : Lock} (h : Reachable l) (hstep : Step l l') : Reachable l'

/-! ## What the lock counts -/

/-- The lock's counts are those of its clients, each of which has a name of its own, and a writer is
    inside without a reader. -/
structure Balanced (l : Lock) : Prop where
  names : (l.clients.map Prod.fst).Nodup
  readers_eq : l.readers = l.count (· = .reading)
  writer_eq : l.writer.toNat = l.count (· = .writing)
  waiting_eq : l.waiting = l.count LockPhase.waitsToWrite
  apart : l.writer = true → l.readers = 0

/-- A client came to read or to write, and did not look yet. -/
def comes (l : Lock) (name : Text) : LockPhase → Lock
  | .blockedWriter woken => arrive { l with waiting := l.waiting + 1 } name (.blockedWriter woken)
  | p => l.arrive name p

theorem Balanced.comes (h : l.Balanced) (habsent : l.phase? name = none) (hp : p.holds = false) :
    (l.comes name p).Balanced := by
  have hnames := Keyed.nodup_append_single (a := (name, p)) h.names (phase?_eq_none_iff.1 habsent)
  have hcount : ∀ q, (l.comes name p).count q = l.count q + (q p).toNat := by
    intro q
    cases p <;> exact count_arrive
  cases p with
  | blockedReader woken =>
      exact ⟨hnames, by rw [hcount]; exact h.readers_eq, by rw [hcount]; exact h.writer_eq,
        by rw [hcount]; exact h.waiting_eq, h.apart⟩
  | blockedWriter woken =>
      exact ⟨hnames, by rw [hcount]; exact h.readers_eq, by rw [hcount]; exact h.writer_eq,
        by rw [hcount, ← h.waiting_eq]; rfl, h.apart⟩
  | reading => cases hp
  | writing => cases hp

/-- A client goes from one phase to another, and the counts follow. -/
theorem Balanced.move (h : l.Balanced) (hphase : l.phase? name = some p) {r : LockPhase}
    {readers waiting : ℕ} {writer : Bool}
    (hreaders : readers + (p = .reading : Bool).toNat = l.readers + (r = .reading : Bool).toNat)
    (hwriter : writer.toNat + (p = .writing : Bool).toNat =
      l.writer.toNat + (r = .writing : Bool).toNat)
    (hwaiting : waiting + p.waitsToWrite.toNat = l.waiting + r.waitsToWrite.toNat)
    (hapart : writer = true → readers = 0) :
    Balanced ⟨readers, writer, waiting, (l.setPhase name r).clients⟩ := by
  have hcount := fun q => count_setPhase h.names hphase q r
  refine ⟨?_, ?_, ?_, ?_, hapart⟩
  · rw [setPhase_clients, Keyed.map_key_put]
    exact h.names
  · show readers = (l.setPhase name r).count (· = .reading)
    have := hcount (· = .reading)
    have := h.readers_eq
    omega
  · show writer.toNat = (l.setPhase name r).count (· = .writing)
    have := hcount (· = .writing)
    have := h.writer_eq
    omega
  · show waiting = (l.setPhase name r).count LockPhase.waitsToWrite
    have := hcount LockPhase.waitsToWrite
    have := h.waiting_eq
    omega

theorem Balanced.look (h : l.Balanced) (hphase : l.phase? name = some p) :
    (l.look name p).Balanced := by
  unfold Lock.look
  cases p with
  | blockedReader woken =>
      show Balanced (if l.admitsReader then _ else _)
      split
      next hadmits =>
        have hwriter : l.writer = false := by simp_all [admitsReader]
        exact h.move hphase rfl rfl rfl fun hinside => by cases hwriter.symm.trans hinside
      next => exact h.move hphase rfl rfl rfl h.apart
  | blockedWriter woken =>
      have hwaits : 0 < l.waiting := by
        rw [h.waiting_eq, count_pos_iff h.names]
        exact ⟨name, _, hphase, rfl⟩
      show Balanced (if l.admitsWriter then _ else _)
      split
      next hadmits =>
        obtain ⟨hwriter, hreaders⟩ : l.writer = false ∧ l.readers = 0 := by
          simpa [admitsWriter] using hadmits
        refine h.move hphase rfl (by simp [hwriter]) ?_ fun _ => hreaders
        simp only [LockPhase.waitsToWrite, Bool.toNat_true, Bool.toNat_false]
        omega
      next => exact h.move hphase rfl rfl rfl h.apart
  | reading => exact h
  | writing => exact h

theorem Balanced.wakeAll (h : l.Balanced) : l.wakeAll.Balanced where
  names := by
    have hkeys : l.wakeAll.clients.map Prod.fst = l.clients.map Prod.fst := by
      simp [Lock.wakeAll]
    rw [hkeys]
    exact h.names
  readers_eq := by
    rw [count_wakeAll fun p => by simp [p.wake_eq_reading_iff]]
    exact h.readers_eq
  writer_eq := by
    rw [count_wakeAll fun p => by simp [p.wake_eq_writing_iff]]
    exact h.writer_eq
  waiting_eq := by
    rw [count_wakeAll fun p => by cases p <;> rfl]
    exact h.waiting_eq
  apart := h.apart

/-- A client that is inside goes, and the counts follow. -/
theorem Balanced.depart (h : l.Balanced) (hphase : l.phase? name = some p)
    (hholds : p.holds = true) (readers : ℕ) (writer : Bool)
    (hreaders : readers + (p = .reading : Bool).toNat = l.readers)
    (hwriter : writer.toNat + (p = .writing : Bool).toNat = l.writer.toNat) :
    Balanced ⟨readers, writer, l.waiting, l.clients.filter (·.1 ≠ name)⟩ := by
  have herase : l.clients.filter (·.1 ≠ name) = Keyed.erase Prod.fst name l.clients := rfl
  have hcount : ∀ q : LockPhase → Bool,
      (Keyed.erase Prod.fst name l.clients).countP (fun c => q c.2) + (q p).toNat = l.count q := by
    intro q
    have hsum := Keyed.sum_erase h.names (Keyed.value?_eq_some_iff.1 hphase) fun c => (q c.2).toNat
    rw [← count_eq_sum] at hsum
    rw [← hsum]
    exact congrArg (· + _) (count_eq_sum (l := ⟨0, false, 0, Keyed.erase Prod.fst name l.clients⟩))
  rw [herase]
  refine ⟨Keyed.nodup_erase h.names, ?_, ?_, ?_, ?_⟩
  · show readers = (Keyed.erase Prod.fst name l.clients).countP fun c => c.2 = .reading
    have := hcount (· = .reading)
    have := h.readers_eq
    omega
  · show writer.toNat = (Keyed.erase Prod.fst name l.clients).countP fun c => c.2 = .writing
    have := hcount (· = .writing)
    have := h.writer_eq
    omega
  · show l.waiting = (Keyed.erase Prod.fst name l.clients).countP fun c => c.2.waitsToWrite
    have := hcount LockPhase.waitsToWrite
    have := h.waiting_eq
    cases p <;> simp_all [LockPhase.waitsToWrite, LockPhase.holds]
  · intro hinside
    change writer = true at hinside
    subst hinside
    have hbefore : l.writer = true := by
      by_contra hno
      rw [Bool.not_eq_true] at hno
      simp [hno] at hwriter
    have := h.apart hbefore
    show readers = 0
    omega

theorem Balanced.leave (h : l.Balanced) (hphase : l.phase? name = some p)
    (hholds : p.holds = true) : (l.leave name).Balanced := by
  unfold Lock.leave
  cases p with
  | reading =>
      have hreaders : 0 < l.readers := by
        rw [h.readers_eq, count_pos_iff h.names]
        exact ⟨name, _, hphase, rfl⟩
      have hdepart := h.depart hphase hholds (l.readers - 1) l.writer (by simp; omega) rfl
      rw [hphase]
      show Balanced (if l.readers - 1 = 0 then _ else _)
      split
      · exact hdepart.wakeAll
      · exact hdepart
  | writing =>
      have hwriter : l.writer.toNat = 1 := by
        have hpos : 0 < l.writer.toNat := by
          rw [h.writer_eq, count_pos_iff h.names]
          exact ⟨name, _, hphase, rfl⟩
        have := l.writer.toNat_le
        omega
      rw [hphase]
      exact (h.depart hphase hholds l.readers false rfl (by simp [hwriter])).wakeAll
  | blockedReader woken => cases hholds
  | blockedWriter woken => cases hholds

/-- A client that was woken looks again. -/
theorem lookAgain_eq_look (hphase : l.phase? name = some p) (hwoken : p.isWoken = true) :
    l.lookAgain name = l.look name p := by
  unfold lookAgain
  rw [hphase]
  cases p with
  | blockedReader woken => cases hwoken; rfl
  | blockedWriter woken => cases hwoken; rfl
  | reading => cases hwoken
  | writing => cases hwoken

/-- A client that has just come stands where it waits. -/
theorem phase?_comes (habsent : l.phase? name = none) :
    (l.comes name p).phase? other = if other = name then some p else l.phase? other := by
  cases p <;> exact phase?_arrive habsent

theorem Step.balanced (hstep : Step l l') (h : l.Balanced) : l'.Balanced := by
  cases hstep with
  | read habsent =>
      have hcomes := h.comes (p := .blockedReader false) habsent rfl
      exact hcomes.look ((phase?_comes habsent).trans (if_pos rfl))
  | write habsent =>
      have hcomes := h.comes (p := .blockedWriter false) habsent rfl
      exact hcomes.look ((phase?_comes habsent).trans (if_pos rfl))
  | lookAgain hphase hwoken =>
      rw [lookAgain_eq_look hphase hwoken]
      exact h.look hphase
  | leave hphase hholds => exact h.leave hphase hholds

/-! ## Where clients stand afterwards -/

/-- Where the clients stand when one of them has looked. -/
theorem phase?_look (hphase : l.phase? name = some p) (hblocked : p.holds = false) :
    (l.look name p).phase? other =
      if other = name then some (if l.admits p then p.enter else p.rest) else l.phase? other := by
  cases p with
  | blockedReader woken =>
      show Lock.phase? (if l.admitsReader then _ else _) other =
        if other = name then some (if l.admitsReader then _ else _) else _
      split
      · exact phase?_setPhase hphase .reading
      · exact phase?_setPhase hphase (.blockedReader false)
  | blockedWriter woken =>
      show Lock.phase? (if l.admitsWriter then _ else _) other =
        if other = name then some (if l.admitsWriter then _ else _) else _
      split
      · exact phase?_setPhase hphase .writing
      · exact phase?_setPhase hphase (.blockedWriter false)
  | reading => cases hblocked
  | writing => cases hblocked

theorem phase?_depart {readers waiting : ℕ} {writer : Bool} :
    Lock.phase? ⟨readers, writer, waiting, l.clients.filter (·.1 ≠ name)⟩ other =
      if other = name then none else l.phase? other :=
  Keyed.value?_erase

/-- Whoever leaves is gone; the others stay where they are, except that they may be woken. -/
theorem phase?_leave (hphase : l.phase? name = some p) (hholds : p.holds = true) (other : Text) :
    (l.leave name).phase? other = (if other = name then none else l.phase? other) ∨
      (l.leave name).phase? other =
        (if other = name then none else l.phase? other).map LockPhase.wake := by
  unfold Lock.leave
  rw [hphase]
  cases p with
  | reading =>
      show Lock.phase? (if _ then _ else _) other = _ ∨ Lock.phase? (if _ then _ else _) other = _
      split
      · exact .inr (by rw [phase?_wakeAll, phase?_depart])
      · exact .inl phase?_depart
  | writing => exact .inr (by rw [phase?_wakeAll, phase?_depart])
  | blockedReader woken => cases hholds
  | blockedWriter woken => cases hholds

/-! ## Who is woken -/

/-- While nobody is inside, a client that sleeps is a reader, and a writer waits. -/
def Alert (l : Lock) : Prop :=
  l.writer = false → l.readers = 0 → ∀ name p, l.phase? name = some p → p.sleeps = true →
    p = .blockedReader false ∧ 0 < l.waiting

theorem alert_wakeAll (l : Lock) : l.wakeAll.Alert := by
  intro _ _ name p hphase hsleeps
  rw [phase?_wakeAll, Option.map_eq_some_iff] at hphase
  obtain ⟨p, -, rfl⟩ := hphase
  rw [p.not_sleeps_wake] at hsleeps
  cases hsleeps

/-- A client that enters is inside. -/
theorem inside_of_admits (name : Text) (hadmits : l.admits p = true) :
    (l.look name p).writer = true ∨ 0 < (l.look name p).readers := by
  cases p with
  | blockedReader woken =>
      have hlook : (l.look name (.blockedReader woken)).readers = l.readers + 1 := by
        rw [look, if_pos (show l.admitsReader = true from hadmits)]
      exact .inr (by omega)
  | blockedWriter woken =>
      exact .inl (by rw [look, if_pos (show l.admitsWriter = true from hadmits)])
  | reading => cases hadmits
  | writing => cases hadmits

/-- A client that may not enter goes to rest, and nothing else changes. -/
theorem look_of_not_admits (hblocked : p.holds = false) (hadmits : l.admits p ≠ true) :
    l.look name p = l.setPhase name p.rest := by
  cases p with
  | blockedReader woken => exact if_neg hadmits
  | blockedWriter woken => exact if_neg hadmits
  | reading => cases hblocked
  | writing => cases hblocked

/-- While nobody is inside, the lock is shut to readers alone, and only for a writer that waits. -/
theorem rest_of_not_admits (hblocked : p.holds = false) (hadmits : l.admits p ≠ true)
    (hwriter : l.writer = false) (hreaders : l.readers = 0) :
    p.rest = .blockedReader false ∧ 0 < l.waiting := by
  cases p with
  | blockedReader woken =>
      have hwaits : l.waiting ≠ 0 := by simpa [admits, admitsReader, hwriter] using hadmits
      exact ⟨rfl, Nat.pos_of_ne_zero hwaits⟩
  | blockedWriter woken => simp [admits, admitsWriter, hwriter, hreaders] at hadmits
  | reading => cases hblocked
  | writing => cases hblocked

/-- A client falls asleep only while somebody is inside, or as a reader while a writer waits. -/
theorem alert_look (hphase : l.phase? name = some p) (hblocked : p.holds = false)
    (hothers : l.writer = false → l.readers = 0 → ∀ other p', other ≠ name →
      l.phase? other = some p' → p'.sleeps = true → p' = .blockedReader false ∧ 0 < l.waiting) :
    (l.look name p).Alert := by
  intro hwriter hreaders other p' hphase' hsleeps
  by_cases hadmits : l.admits p = true
  · rcases inside_of_admits name hadmits with hinside | hinside
    · cases hwriter.symm.trans hinside
    · omega
  · rw [look_of_not_admits hblocked hadmits] at hwriter hreaders hphase' ⊢
    rw [phase?_setPhase hphase] at hphase'
    split at hphase'
    next =>
      obtain rfl := Option.some.inj hphase'
      exact rest_of_not_admits hblocked hadmits hwriter hreaders
    next hne => exact hothers hwriter hreaders other p' hne hphase' hsleeps

/-- In `l₀` a client is about to look. But for that client, and for the number of writers that wait,
    `l₀` is `l`. -/
structure AboutToLook (l l₀ : Lock) (name : Text) (p : LockPhase) : Prop where
  phase : l₀.phase? name = some p
  blocked : p.holds = false
  writer_eq : l₀.writer = l.writer
  readers_eq : l₀.readers = l.readers
  waiting_le : l.waiting ≤ l₀.waiting
  others : ∀ other, other ≠ name → l₀.phase? other = l.phase? other

theorem aboutToLook_comes (habsent : l.phase? name = none) (hp : p.holds = false) :
    AboutToLook l (l.comes name p) name p where
  phase := (phase?_comes habsent).trans (if_pos rfl)
  blocked := hp
  writer_eq := by cases p <;> rfl
  readers_eq := by cases p <;> rfl
  waiting_le := by
    cases p with
    | blockedWriter woken => exact Nat.le_succ _
    | blockedReader woken => exact Nat.le_refl _
    | reading => exact Nat.le_refl _
    | writing => exact Nat.le_refl _
  others := fun _ hne => (phase?_comes habsent).trans (if_neg hne)

theorem aboutToLook_again (hphase : l.phase? name = some p) (hwoken : p.isWoken = true) :
    AboutToLook l l name p where
  phase := hphase
  blocked := LockPhase.holds_eq_false_of_isWoken hwoken
  writer_eq := rfl
  readers_eq := rfl
  waiting_le := Nat.le_refl _
  others := fun _ _ => rfl

/-- In a step, a client looks that has just come or was woken, or one leaves. -/
theorem Step.looks_or_leaves (hstep : Step l l') :
    (∃ l₀ name p, AboutToLook l l₀ name p ∧ l' = l₀.look name p) ∨
      ∃ name p, l.phase? name = some p ∧ p.holds = true ∧ l' = l.leave name := by
  cases hstep with
  | read habsent => exact .inl ⟨_, _, .blockedReader false, aboutToLook_comes habsent rfl, rfl⟩
  | write habsent => exact .inl ⟨_, _, .blockedWriter false, aboutToLook_comes habsent rfl, rfl⟩
  | lookAgain hphase hwoken =>
      exact .inl ⟨_, _, _, aboutToLook_again hphase hwoken, lookAgain_eq_look hphase hwoken⟩
  | leave hphase hholds => exact .inr ⟨_, _, hphase, hholds, rfl⟩

theorem Step.alert (hstep : Step l l') (h : l.Alert) : l'.Alert := by
  rcases hstep.looks_or_leaves with ⟨l₀, name, p, hready, rfl⟩ | ⟨name, p, hphase, hholds, rfl⟩
  · refine alert_look hready.phase hready.blocked
      fun hwriter hreaders other p' hne hphase hsleeps => ?_
    have hquiet := h (hready.writer_eq ▸ hwriter) (hready.readers_eq ▸ hreaders)
    obtain ⟨hreader, hwaits⟩ := hquiet other p' (hready.others other hne ▸ hphase) hsleeps
    exact ⟨hreader, Nat.lt_of_lt_of_le hwaits hready.waiting_le⟩
  · unfold Lock.leave
    rw [hphase]
    cases p with
    | reading =>
        show Alert (if l.readers - 1 = 0 then _ else _)
        split
        next => exact alert_wakeAll _
        next hstill => exact fun _ hreaders => absurd hreaders hstill
    | writing => exact alert_wakeAll _
    | blockedReader woken => cases hholds
    | blockedWriter woken => cases hholds

theorem Reachable.balanced (h : Reachable l) : l.Balanced := by
  induction h with
  | free => exact ⟨List.nodup_nil, rfl, rfl, rfl, fun _ => rfl⟩
  | step _ hstep ih => exact hstep.balanced ih

theorem Reachable.alert (h : Reachable l) : l.Alert := by
  induction h with
  | free => exact fun _ _ name p hphase => by cases hphase
  | step _ hstep ih => exact hstep.alert ih

/-! ## What the lock keeps -/

/-- A reader enters only when no writer waits. -/
theorem Step.waiting_eq_zero (hstep : Step l l') (hbefore : l.phase? name ≠ some .reading)
    (hafter : l'.phase? name = some .reading) : l.waiting = 0 := by
  rcases hstep.looks_or_leaves with ⟨l₀, other, p, hready, rfl⟩ | ⟨other, p, hphase, hholds, rfl⟩
  · have hwaiting := hready.waiting_le
    rw [phase?_look hready.phase hready.blocked] at hafter
    split at hafter
    next =>
      cases p with
      | blockedReader woken =>
          by_cases hadmits : l₀.admits (.blockedReader woken) = true
          · have hnone : l₀.waiting = 0 := by simp_all [admits, admitsReader]
            omega
          · simp [hadmits, LockPhase.rest] at hafter
      | blockedWriter woken =>
          by_cases hadmits : l₀.admits (.blockedWriter woken) = true
          · simp [hadmits, LockPhase.enter] at hafter
          · simp [hadmits, LockPhase.rest] at hafter
      | reading => cases hready.blocked
      | writing => cases hready.blocked
    next hne => exact absurd ((hready.others name hne).symm.trans hafter) hbefore
  · -- Nobody starts to read because somebody else leaves.
    exfalso
    rcases phase?_leave hphase hholds name with hleft | hleft <;> rw [hleft] at hafter
    · split at hafter
      · cases hafter
      · exact hbefore hafter
    · split at hafter
      · cases hafter
      · obtain ⟨p', hp', hwake⟩ := Option.map_eq_some_iff.1 hafter
        exact hbefore (hp' ▸ congrArg some (p'.wake_eq_reading_iff.1 hwake))

/-- Only one client writes. -/
theorem Balanced.writing_unique (h : l.Balanced) (hphase : l.phase? name = some .writing)
    (hother : l.phase? other = some .writing) : name = other := by
  by_contra hne
  -- Were the one not writing, the other still would be.
  have hless := count_setPhase h.names hphase (· = .writing) (.blockedWriter false)
  have hstill : 0 < (l.setPhase name (.blockedWriter false)).count (· = .writing) := by
    rw [count_pos_iff (by rw [setPhase_clients, Keyed.map_key_put]; exact h.names)]
    refine ⟨other, .writing, ?_, rfl⟩
    rw [phase?_setPhase hphase, if_neg (Ne.symm hne), hother]
  have hwriter := h.writer_eq
  have hle := l.writer.toNat_le
  simp only [decide_true, reduceCtorEq, decide_false, Bool.toNat_true, Bool.toNat_false] at hless
  omega

/-- Nobody reads while a client writes. -/
theorem Balanced.not_reading (h : l.Balanced) (hphase : l.phase? name = some .writing) :
    l.phase? other ≠ some .reading := by
  intro hother
  have hreads : 0 < l.readers := by
    rw [h.readers_eq, count_pos_iff h.names]
    exact ⟨other, _, hother, rfl⟩
  have hwrites : 0 < l.writer.toNat := by
    rw [h.writer_eq, count_pos_iff h.names]
    exact ⟨name, _, hphase, rfl⟩
  have hnone := h.apart (by cases hw : l.writer <;> simp_all)
  omega

/-- Where nobody is inside, the counts say so. -/
theorem Balanced.empty (h : l.Balanced) (hnobody : l.holding = []) :
    l.writer = false ∧ l.readers = 0 := by
  have hnone : ∀ name p, l.phase? name = some p → p.holds = false := by
    intro name p hphase
    have hmem := (mem_clients_iff h.names).2 hphase
    simp only [holding, List.map_eq_nil_iff, List.filter_eq_nil_iff] at hnobody
    simpa using hnobody (name, p) hmem
  constructor
  · by_contra hwriter
    have hpos : 0 < l.count (· = .writing) := by
      rw [← h.writer_eq]
      simp_all
    obtain ⟨name, p, hphase, hp⟩ := (count_pos_iff h.names).1 hpos
    have := hnone name p hphase
    simp_all [LockPhase.holds]
  · by_contra hreaders
    have hpos : 0 < l.count (· = .reading) := by
      rw [← h.readers_eq]
      omega
    obtain ⟨name, p, hphase, hp⟩ := (count_pos_iff h.names).1 hpos
    have := hnone name p hphase
    simp_all [LockPhase.holds]

/-- Whoever was woken and may enter is inside when it has looked. -/
theorem holds_lookAgain (hphase : l.phase? name = some p) (hwoken : p.isWoken = true)
    (hadmits : l.admits p = true) :
    ∃ p', (l.lookAgain name).phase? name = some p' ∧ p'.holds = true := by
  have hblocked := LockPhase.holds_eq_false_of_isWoken hwoken
  refine ⟨p.enter, ?_, by cases p <;> rfl⟩
  rw [lookAgain_eq_look hphase hwoken, phase?_look hphase hblocked, if_pos rfl, if_pos hadmits]

/-- While nobody is inside and somebody is blocked, somebody was woken who may enter. -/
theorem exists_woken (h : l.Balanced) (halert : l.Alert) (hnobody : l.holding = [])
    (hblocked : l.blocked ≠ []) :
    ∃ name p, l.phase? name = some p ∧ p.isWoken = true ∧ l.admits p = true := by
  obtain ⟨hwriter, hreaders⟩ := h.empty hnobody
  by_cases hwaits : 0 < l.waiting
  · -- A writer that waits may enter, and it does not sleep.
    rw [h.waiting_eq, count_pos_iff h.names] at hwaits
    obtain ⟨name, p, hphase, hp⟩ := hwaits
    cases p with
    | blockedWriter woken =>
        have hwoken : woken = true := by
          by_contra hsleeps
          rw [Bool.not_eq_true] at hsleeps
          subst hsleeps
          cases (halert hwriter hreaders name _ hphase rfl).1
        exact ⟨name, _, hphase, hwoken, by simp [admits, admitsWriter, hwriter, hreaders]⟩
    | blockedReader woken => cases hp
    | reading => cases hp
    | writing => cases hp
  · -- Without a writer that waits, nobody sleeps, and any reader may enter.
    obtain ⟨⟨name, p⟩, hmem⟩ :=
      List.exists_mem_of_ne_nil _ (mt (congrArg (List.map Prod.fst)) hblocked)
    rw [List.mem_filter, mem_clients_iff h.names] at hmem
    obtain ⟨hphase, hp⟩ := hmem
    cases p with
    | blockedReader woken =>
        have hwoken : woken = true := by
          by_contra hsleeps
          rw [Bool.not_eq_true] at hsleeps
          subst hsleeps
          exact hwaits (halert hwriter hreaders name _ hphase rfl).2
        exact ⟨name, _, hphase, hwoken, by simp [admits, admitsReader, hwriter]; omega⟩
    | blockedWriter woken =>
        refine absurd ?_ hwaits
        rw [h.waiting_eq, count_pos_iff h.names]
        exact ⟨name, _, hphase, rfl⟩
    | reading => cases hp
    | writing => cases hp

/-- What a lock keeps for its clients, whatever they do. -/
structure Orderly (l : Lock) : Prop where
  /-- Every client is listed once. -/
  names : (l.clients.map Prod.fst).Nodup
  readers_eq : l.readers = l.count (· = .reading)
  /-- A reader that leaves takes the count down from above zero. -/
  readers_pos : ∀ name, l.phase? name = some .reading → 0 < l.readers
  waiting_eq : l.waiting = l.count LockPhase.waitsToWrite
  writer_iff : l.writer = true ↔ l.count (· = .writing) = 1
  /-- Beside a writer nobody else is inside. -/
  alone : ∀ name other, l.phase? name = some .writing → other ≠ name →
    ∀ p, l.phase? other = some p → p.holds = false
  /-- No reader enters while a writer waits. -/
  behind : ∀ l' name other woken, Step l l' → l.phase? name ≠ some .reading →
    l'.phase? name = some .reading → l.phase? other ≠ some (.blockedWriter woken)
  /-- While nobody is inside and somebody is blocked, somebody who is blocked was woken, and enters
      when it looks. -/
  woken : l.holding = [] → l.blocked ≠ [] → ∃ name p, l.phase? name = some p ∧ p.isWoken = true ∧
    ∃ p', (l.lookAgain name).phase? name = some p' ∧ p'.holds = true

/-- **The lock is orderly.** Whatever its clients do, in whatever order: its counts are those of the
    clients inside, a writer is inside alone, no reader overtakes a writer that waits, and no waking
    is lost. -/
theorem orderly_of_reachable (h : Reachable l) : l.Orderly where
  names := h.balanced.names
  readers_eq := h.balanced.readers_eq
  readers_pos := by
    intro name hphase
    rw [h.balanced.readers_eq, count_pos_iff h.balanced.names]
    exact ⟨name, _, hphase, rfl⟩
  waiting_eq := h.balanced.waiting_eq
  writer_iff := by
    rw [← h.balanced.writer_eq]
    cases l.writer <;> simp
  alone := by
    intro name other hphase hne p hother
    cases p with
    | reading => exact absurd hother (h.balanced.not_reading hphase)
    | writing => exact absurd (h.balanced.writing_unique hother hphase) hne
    | blockedReader woken => rfl
    | blockedWriter woken => rfl
  behind := by
    intro l' name other woken hstep hbefore hafter hwriter
    have hwaits : 0 < l.waiting := by
      rw [h.balanced.waiting_eq, count_pos_iff h.balanced.names]
      exact ⟨other, _, hwriter, rfl⟩
    have hnone := hstep.waiting_eq_zero hbefore hafter
    omega
  woken := by
    intro hnobody hblocked
    obtain ⟨name, p, hphase, hwoken, hadmits⟩ :=
      exists_woken h.balanced h.alert hnobody hblocked
    exact ⟨name, p, hphase, hwoken, holds_lookAgain hphase hwoken hadmits⟩

/-- A writer has left; of the reader and the writer that it woke, the reader looked first. -/
def handedOver : Lock :=
  ((((Lock.free.write "a").read "b").write "c").leave "a").lookAgain "b"

/-- The reader sleeps again, with nobody inside: the writer, which is awake, will wake it. -/
theorem orderly_handedOver :
    handedOver.clients = [("b".toList, .blockedReader false), ("c".toList, .blockedWriter true)] ∧
      Reachable handedOver ∧ handedOver.Orderly := by
  have hreachable : Reachable handedOver :=
    .step (.step (.step (.step (.step .free (.write rfl)) (.read rfl)) (.write rfl))
      (.leave (p := .writing) rfl rfl)) (.lookAgain (p := .blockedReader true) rfl rfl)
  exact ⟨rfl, hreachable, orderly_of_reachable hreachable⟩

end Lock
end LiveReload
end PageLoom
