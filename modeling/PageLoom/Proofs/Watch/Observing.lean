import Mathlib.Data.List.DropRight
import PageLoom.Proofs.FileTree.Listing
import PageLoom.Watch.Watcher

set_option autoImplicit false

/-! # What a watcher lists and which observer it holds

A watcher is started and stopped in any order, and each start meets the files and the system as they
are then. What a start can come to is said once (`start_of_registers`, `start_of_not_registers`).
The list of the watcher is that of the observer which it holds, after every call, exactly if no
start slips: fails when directories are registered already, or registers them while another observer
is held (`matches_follow_iff`). -/

namespace PageLoom
namespace Watch

namespace ObserverCall

/-- The observer that is asked. -/
def observer : ObserverCall → ℕ
  | schedule n _ _ | start n | stop n | join n _ => n

/-- The directory to be registered. -/
def directory? : ObserverCall → Option Text
  | schedule _ d _ => some d
  | _ => none

end ObserverCall

/-- Whether the system does what is asked of an observer. -/
def ObserverTemper.grants (temper : ObserverTemper) : ObserverCall → Bool
  | .schedule _ d _ => (temper.refusal? d).isNone
  | .start _ => temper.failure?.isNone
  | .stop _ | .join .. => true

/-- The directories registered on an observer. -/
def registeredOn (n : ℕ) (done : List ObserverCall) : List Text :=
  (done.filter (·.observer = n)).filterMap (·.directory?)

/-- The links stand among the files, each where nothing else stands. -/
structure ObserverTemper.Lawful (temper : ObserverTemper) (tree : FileTree) : Prop where
  nodup : temper.links.Nodup
  proper : ∀ l ∈ temper.links, ∀ name ∈ l, SitePath.Proper name
  apart : ∀ l ∈ temper.links, tree.node? l = none

/-- A call of a watcher; a start meets the files and the system as they are then. -/
inductive WatcherCall where
  | start (tree : FileTree) (temper : ObserverTemper)
  | stop (limit : Quantity)

/-- A start registers directories: there is a root, and the system takes it. -/
def Watcher.Registers (w : Watcher) (tree : FileTree) (temper : ObserverTemper) : Prop :=
  tree.isDirectory w.root = .ok true ∧ temper.refusal? w.root = none

namespace WatcherCall

/-- The watcher that a call leaves. -/
def after (w : Watcher) : WatcherCall → Watcher
  | start tree temper => (w.start tree temper).1
  | stop limit => (w.stop limit).1

/-- What a call asks of observers and is done. -/
def granted (w : Watcher) : WatcherCall → List ObserverCall
  | start tree temper => (w.start tree temper).2.1.calls.filter temper.grants
  | stop limit => (w.stop limit).2

/-- A call that starts the watcher. -/
def isStart : WatcherCall → Bool
  | start .. => true
  | stop _ => false

/-- The files and links that a call meets are a file system's. -/
def Lawful : WatcherCall → Prop
  | start tree temper => tree.Lawful ∧ temper.Lawful tree
  | stop _ => True

/-- A start registers directories, and then its observer does not start, or another observer is
    held. -/
def Slips (w : Watcher) : WatcherCall → Prop
  | start tree temper => w.Registers tree temper ∧ (temper.failure? ≠ none ∨ w.held ≠ none)
  | stop _ => False

end WatcherCall

variable {w : Watcher} {tree : FileTree} {temper : ObserverTemper} {done : List ObserverCall}
  {c : WatcherCall} {calls : List WatcherCall} {n m : ℕ}

/-! ## The directories of a start -/

namespace Watcher

theorem mem_listedIn_iff {l : Location} {name : Text} :
    name ∈ listedIn tree temper l ↔ name ∈ tree.directoriesIn l ∨ l ++ [name] ∈ temper.links := by
  rw [listedIn, Text.sort, (List.mergeSort_perm ..).mem_iff, List.mem_append, List.mem_filterMap]
  simp [FileTree.nameIn?_eq_some_iff]

/-- No name is listed twice, because no link stands where a directory stands. -/
theorem nodup_listedIn (h : tree.Lawful) (hlinks : temper.Lawful tree) (l : Location) :
    (listedIn tree temper l).Nodup := by
  rw [listedIn, Text.sort, (List.mergeSort_perm ..).nodup_iff]
  refine List.Nodup.append (FileTree.nodup_namesIn h _) ?_ fun name hown hlink => ?_
  · refine hlinks.nodup.filterMap fun k k' name hname hname' => ?_
    rw [FileTree.nameIn?_eq_some_iff.1 hname, FileTree.nameIn?_eq_some_iff.1 hname']
  · obtain ⟨k, hk, hname⟩ := List.mem_filterMap.1 hlink
    obtain rfl := FileTree.nameIn?_eq_some_iff.1 hname
    have hnode := (FileTree.mem_directoriesIn_iff h).1 hown
    rw [hlinks.apart _ hk] at hnode
    cases hnode

theorem proper_of_mem_listedIn (h : tree.Lawful) (hlinks : temper.Lawful tree) {l : Location}
    {name : Text} (hname : name ∈ listedIn tree temper l) : SitePath.Proper name := by
  have hlast : name ∈ l ++ [name] := List.mem_append_right l List.mem_cons_self
  rcases mem_listedIn_iff.1 hname with hname | hname
  · exact h.proper_of_node ((FileTree.mem_directoriesIn_iff h).1 hname) name hlast
  · exact hlinks.proper _ hname name hlast

/-- What is listed inside a directory has further proper names. -/
theorem of_mem_below (h : tree.Lawful) (hlinks : temper.Lawful tree) {root : Location} {fuel : ℕ}
    {names found : List Text} (hfound : found ∈ below.go tree temper w root names fuel) :
    ∃ rest, rest ≠ [] ∧ (∀ name ∈ rest, SitePath.Proper name) ∧ found = names ++ rest := by
  induction fuel generalizing names with
  | zero => exact absurd hfound List.not_mem_nil
  | succ fuel ih =>
      rw [below.go] at hfound
      split at hfound
      next =>
        rw [List.mem_append, List.mem_map, List.mem_flatMap] at hfound
        rcases hfound with ⟨name, hname, rfl⟩ | ⟨name, hname, hinner⟩
        · exact ⟨[name], List.cons_ne_nil _ _,
            List.forall_mem_singleton.2 (proper_of_mem_listedIn h hlinks hname), rfl⟩
        · obtain ⟨rest, -, hproper, rfl⟩ := ih hinner
          have hfirst := proper_of_mem_listedIn h hlinks (mem_listedIn_iff.2 (.inl hname))
          exact ⟨name :: rest, List.cons_ne_nil _ _, List.forall_mem_cons.2 ⟨hfirst, hproper⟩,
            List.append_assoc ..⟩
      next => exact absurd hfound List.not_mem_nil

theorem nodup_below (h : tree.Lawful) (hlinks : temper.Lawful tree) (w : Watcher) (root : Location)
    (names : List Text) (fuel : ℕ) : (below.go tree temper w root names fuel).Nodup := by
  induction fuel generalizing names with
  | zero => exact List.nodup_nil
  | succ fuel ih =>
      rw [below.go]
      split
      next =>
        refine FileTree.nodup_levels names (nodup_listedIn h hlinks _)
          (FileTree.nodup_namesIn h _) fun name => ⟨ih _, fun found hfound => ?_⟩
        obtain ⟨rest, hrest, -, rfl⟩ := of_mem_below h hlinks hfound
        exact ⟨rest, hrest, List.append_assoc ..⟩
      next => exact List.nodup_nil

theorem parts_pathOf (w : Watcher) {names : List Text} (h : ∀ name ∈ names, SitePath.Proper name) :
    SitePath.parts (w.pathOf names) = SitePath.parts w.root ++ names := by
  rw [pathOf, SitePath.parts_child (SitePath.isAbsolute_ofSegments_of_proper h),
    SitePath.parts_ofSegments_of_proper h]

theorem nodup_directories (h : tree.Lawful) (hlinks : temper.Lawful tree) (w : Watcher) :
    (w.directories tree temper).Nodup := by
  unfold directories
  cases tree.locate w.root with
  | error fault => exact List.nodup_singleton w.root
  | ok root =>
      have hparts : ∀ names ∈ below tree temper w root, names ≠ [] ∧
          SitePath.parts (w.pathOf names) = SitePath.parts w.root ++ names := by
        intro names hnames
        obtain ⟨rest, hrest, hproper, rfl⟩ := of_mem_below h hlinks hnames
        exact ⟨hrest, parts_pathOf w hproper⟩
      refine List.nodup_cons.2 ⟨fun hmem => ?_, ?_⟩
      · obtain ⟨names, hnames, heq⟩ := List.mem_map.1 hmem
        obtain ⟨hne, hself⟩ := hparts names hnames
        rw [heq, List.self_eq_append_right] at hself
        exact hne hself
      · refine (nodup_below h hlinks w root [] _).map_on fun names hnames names' hnames' heq => ?_
        have hsame := (hparts names hnames).2
        rw [heq, (hparts names' hnames').2] at hsame
        exact (List.append_cancel_left hsame).symm

/-- The directories depend on the root only. -/
theorem directories_congr {w' : Watcher} (h : w.root = w'.root) :
    w.directories tree temper = w'.directories tree temper := by
  have hpath : w.pathOf = w'.pathOf := by
    unfold pathOf
    rw [h]
  have hbelow (root : Location) : below tree temper w root = below tree temper w' root := by
    unfold below
    generalize tree.nodes.length + 1 = fuel
    generalize [] = names
    induction fuel generalizing names with
    | zero => rfl
    | succ fuel ih => simp only [below.go, hpath, ih]
  unfold directories
  simp only [h, hpath, hbelow]

/-! ## What a call does -/

/-- The directories that a start registers. -/
def accepted (w : Watcher) (tree : FileTree) (temper : ObserverTemper) : List Text :=
  (w.directories tree temper).filter fun d => (temper.refusal? d).isNone

theorem scheduleAll_eq (temper : ObserverTemper) (n : ℕ) (ds : List Text) :
    (scheduleAll temper n ds).1 = ds.filter (fun d => (temper.refusal? d).isNone) ∧
      (scheduleAll temper n ds).2.calls = ds.map (.schedule n · false) := by
  induction ds with
  | nil => exact ⟨rfl, rfl⟩
  | cons d rest ih =>
      obtain ⟨htaken, hcalls⟩ := ih
      unfold scheduleAll
      cases hrefusal : temper.refusal? d with
      | none => simp [hrefusal, htaken, hcalls]
      | some reason => simp [hrefusal, htaken, hcalls]

theorem head?_accepted (hroot : temper.refusal? w.root = none) :
    (w.accepted tree temper).head? = some w.root := by
  simp [accepted, directories, hroot]

theorem nodup_accepted (h : tree.Lawful) (hlinks : temper.Lawful tree) :
    (w.accepted tree temper).Nodup :=
  (nodup_directories h hlinks w).filter _

theorem start_of_not_registers (h : ¬ w.Registers tree temper) :
    (∃ made, w.made ≤ made ∧ WatcherCall.after w (.start tree temper) = { w with made := made }) ∧
      WatcherCall.granted w (.start tree temper) = [] := by
  unfold WatcherCall.after WatcherCall.granted
  cases hdirectory : tree.isDirectory w.root with
  | error fault =>
      simp only [start, hdirectory]
      exact ⟨⟨w.made, Nat.le_refl _, rfl⟩, rfl⟩
  | ok isDirectory =>
      cases isDirectory with
      | false =>
          simp only [start, hdirectory]
          exact ⟨⟨w.made, Nat.le_refl _, rfl⟩, rfl⟩
      | true =>
          cases hrefusal : temper.refusal? w.root with
          | none => exact absurd ⟨hdirectory, hrefusal⟩ h
          | some reason =>
              simp only [start, hdirectory, hrefusal]
              exact ⟨⟨w.made + 1, Nat.le_succ _, rfl⟩, by simp [ObserverTemper.grants, hrefusal]⟩

/-- Directories are registered on a new observer, which is held if it starts. -/
theorem start_of_registers (h : w.Registers tree temper) :
    WatcherCall.after w (.start tree temper) = { w with
        made := w.made + 1
        watched := w.watched ++ w.accepted tree temper
        held := if temper.failure? = none then some w.made else w.held } ∧
      WatcherCall.granted w (.start tree temper) =
        (w.accepted tree temper).map (.schedule w.made · false) ++
          if temper.failure? = none then [.start w.made] else [] := by
  obtain ⟨hdirectory, hroot⟩ := h
  obtain ⟨htaken, hcalls⟩ :=
    scheduleAll_eq temper w.made ({ w with made := w.made + 1 }.directories tree temper)
  have hgranted : ((w.directories tree temper).map (ObserverCall.schedule w.made · false)).filter
      temper.grants = (w.accepted tree temper).map (.schedule w.made · false) := by
    rw [List.filter_map]
    rfl
  have hsame : { w with made := w.made + 1 }.directories tree temper = w.directories tree temper :=
    directories_congr rfl
  unfold WatcherCall.after WatcherCall.granted
  cases hfailure : temper.failure? with
  | none =>
      simp only [start, hdirectory, hroot, hfailure, if_true, htaken, hcalls, List.filter_append]
      rw [hsame, hgranted]
      exact ⟨rfl, by simp [ObserverTemper.grants, hfailure]⟩
  | some reason =>
      simp only [start, hdirectory, hroot, hfailure, reduceCtorEq, if_false, htaken, hcalls,
        List.filter_append]
      rw [hsame, hgranted]
      exact ⟨rfl, by simp [ObserverTemper.grants, hfailure]⟩

/-! ## Observers are told apart -/

@[simp] theorem registeredOn_append (n : ℕ) (done more : List ObserverCall) :
    registeredOn n (done ++ more) = registeredOn n done ++ registeredOn n more := by
  simp [registeredOn]

theorem registeredOn_schedule (n : ℕ) (ds : List Text) :
    registeredOn n (ds.map (.schedule n · false)) = ds := by
  simp [registeredOn, List.filter_map, List.filterMap_map, ObserverCall.observer,
    ObserverCall.directory?, Function.comp_def]

theorem registeredOn_of_ne (h : ∀ call ∈ done, call.observer ≠ n) : registeredOn n done = [] := by
  have hnone : done.filter (·.observer = n) = [] := List.filter_eq_nil_iff.2 (by simpa using h)
  rw [registeredOn, hnone]
  rfl

/-- Whatever was done was done by observers that the watcher has made. -/
structure Numbered (w : Watcher) (done : List ObserverCall) : Prop where
  held_lt : ∀ n ∈ w.held, n < w.made
  done_lt : ∀ call ∈ done, call.observer < w.made

theorem numbered_ofRoot (root : Text) : Numbered (ofRoot root) [] := ⟨nofun, nofun⟩

/-- A start concerns a new observer only. -/
theorem observer_of_mem_granted {call : ObserverCall}
    (h : call ∈ WatcherCall.granted w (.start tree temper)) : call.observer = w.made := by
  by_cases hregisters : w.Registers tree temper
  · rw [(start_of_registers hregisters).2, List.mem_append, List.mem_map] at h
    rcases h with ⟨d, -, rfl⟩ | h
    · rfl
    · split at h
      next => rw [List.mem_singleton.1 h]; rfl
      next => exact absurd h List.not_mem_nil
  · rw [(start_of_not_registers hregisters).2] at h
    exact absurd h List.not_mem_nil

theorem Numbered.after (h : Numbered w done) (c : WatcherCall) :
    Numbered (c.after w) (done ++ c.granted w) := by
  cases c with
  | stop limit =>
      refine ⟨nofun, List.forall_mem_append.2 ⟨h.done_lt, ?_⟩⟩
      unfold WatcherCall.granted stop
      cases hheld : w.held with
      | none => exact nofun
      | some n =>
          have hlt := h.held_lt n hheld
          simpa [WatcherCall.after, stop, ObserverCall.observer] using hlt
  | start tree temper =>
      by_cases hregisters : w.Registers tree temper
      · have hmade : (WatcherCall.after w (.start tree temper)).made = w.made + 1 := by
          rw [(start_of_registers hregisters).1]
        refine ⟨fun n hn => ?_, fun call hcall => ?_⟩
        · rw [hmade]
          rw [(start_of_registers hregisters).1] at hn
          dsimp only at hn
          split at hn
          next =>
            obtain rfl := Option.some.inj hn
            exact Nat.lt_succ_self _
          next => exact Nat.lt_succ_of_lt (h.held_lt n hn)
        · rw [hmade]
          rcases List.mem_append.1 hcall with hcall | hcall
          · exact Nat.lt_succ_of_lt (h.done_lt call hcall)
          · rw [observer_of_mem_granted hcall]
            exact Nat.lt_succ_self _
      · obtain ⟨⟨made, hmade, hafter⟩, hgranted⟩ := start_of_not_registers hregisters
        rw [hafter, hgranted, List.append_nil]
        exact ⟨fun n hn => Nat.lt_of_lt_of_le (h.held_lt n hn) hmade,
          fun call hcall => Nat.lt_of_lt_of_le (h.done_lt call hcall) hmade⟩

/-! ## The list and the observer that is held -/

/-- The watcher's list is that of the observer which it holds, and no other observer runs. -/
structure Matches (w : Watcher) (done : List ObserverCall) : Prop where
  /-- Listed are the directories that the held observer watches, each once, the root first. -/
  watched_of_held : ∀ n, w.held = some n →
    w.watched = registeredOn n done ∧ w.watched.Nodup ∧ w.watched.head? = some w.root
  watched_of_idle : w.held = none → w.watched = []
  /-- An observer that was started is held, or it was stopped and its end awaited. -/
  ended : ∀ n, .start n ∈ done →
    w.held = some n ∨ ∃ limit, List.Sublist [.stop n, .join n limit] done

theorem matches_ofRoot (root : Text) : Matches (ofRoot root) [] := ⟨nofun, fun _ => rfl, nofun⟩

theorem matches_stop (h : Matches w done) (limit : Quantity) :
    Matches (WatcherCall.after w (.stop limit)) (done ++ WatcherCall.granted w (.stop limit)) := by
  refine ⟨nofun, fun _ => rfl, fun n hn => .inr ?_⟩
  unfold WatcherCall.granted stop at hn ⊢
  cases hheld : w.held with
  | none =>
      rw [hheld] at hn
      rw [List.append_nil] at hn ⊢
      exact (h.ended n hn).resolve_left (by simp [hheld])
  | some m =>
      rw [hheld] at hn
      have hstarted : .start n ∈ done := by simpa using hn
      rcases h.ended n hstarted with hsame | ⟨limit', hended⟩
      · obtain rfl := Option.some.inj (hheld.symm.trans hsame)
        exact ⟨limit, List.sublist_append_right _ _⟩
      · exact ⟨limit', hended.trans (List.sublist_append_left _ _)⟩

theorem registeredOn_granted (h : w.Registers tree temper) (hnumbered : Numbered w done) :
    registeredOn w.made (done ++ WatcherCall.granted w (.start tree temper)) =
      w.accepted tree temper := by
  have hnew : registeredOn w.made done = [] :=
    registeredOn_of_ne fun call hcall => Nat.ne_of_lt (hnumbered.done_lt call hcall)
  rw [registeredOn_append, hnew, (start_of_registers h).2, registeredOn_append,
    registeredOn_schedule]
  split <;> simp [registeredOn, ObserverCall.directory?]

theorem registeredOn_granted_of_held (hheld : w.held = some n) (hnumbered : Numbered w done) :
    registeredOn n (done ++ WatcherCall.granted w (.start tree temper)) = registeredOn n done := by
  have hother : registeredOn n (WatcherCall.granted w (.start tree temper)) = [] := by
    refine registeredOn_of_ne fun call hcall => ?_
    rw [observer_of_mem_granted hcall]
    exact Nat.ne_of_gt (hnumbered.held_lt n hheld)
  rw [registeredOn_append, hother, List.append_nil]

theorem accepted_ne_nil (h : w.Registers tree temper) : w.accepted tree temper ≠ [] := by
  intro hnil
  have hhead : (w.accepted tree temper).head? = some w.root := head?_accepted h.2
  rw [hnil] at hhead
  cases hhead

/-- A start that slips leaves a list that is not the one of the held observer. -/
theorem not_matches_of_slips (h : Matches w done) (hnumbered : Numbered w done)
    (hslips : WatcherCall.Slips w (.start tree temper)) :
    ¬ Matches (WatcherCall.after w (.start tree temper))
      (done ++ WatcherCall.granted w (.start tree temper)) := by
  obtain ⟨hregisters, hslip⟩ := hslips
  have hafter := (start_of_registers hregisters).1
  have hne := accepted_ne_nil hregisters
  intro hmatches
  cases hfailure : temper.failure? with
  | none =>
      -- What another observer watches is still listed.
      obtain ⟨n, hheld⟩ :=
        Option.ne_none_iff_exists'.1 (hslip.resolve_left (not_not_intro hfailure))
      have hlisted := (hmatches.watched_of_held w.made (by rw [hafter]; simp [hfailure])).1
      rw [registeredOn_granted hregisters hnumbered, hafter] at hlisted
      have hempty : w.watched = [] := List.append_left_eq_self.1 hlisted
      have hhead := (h.watched_of_held n hheld).2.2
      rw [hempty] at hhead
      cases hhead
  | some reason =>
      have hheldAfter : (WatcherCall.after w (.start tree temper)).held = w.held := by
        rw [hafter]
        simp [hfailure]
      have hwatched : (WatcherCall.after w (.start tree temper)).watched =
          w.watched ++ w.accepted tree temper := by rw [hafter]
      cases hheld : w.held with
      | none =>
          have hlisted := hmatches.watched_of_idle (hheldAfter.trans hheld)
          rw [hwatched, List.append_eq_nil_iff] at hlisted
          exact hne hlisted.2
      | some n =>
          have hlisted := (hmatches.watched_of_held n (hheldAfter.trans hheld)).1
          rw [registeredOn_granted_of_held hheld hnumbered, hwatched,
            (h.watched_of_held n hheld).1, List.append_right_eq_self] at hlisted
          exact hne hlisted

theorem matches_start (h : Matches w done) (hnumbered : Numbered w done) (hlawful : tree.Lawful)
    (hlinks : temper.Lawful tree) (hslips : ¬ WatcherCall.Slips w (.start tree temper)) :
    Matches (WatcherCall.after w (.start tree temper))
      (done ++ WatcherCall.granted w (.start tree temper)) := by
  by_cases hregisters : w.Registers tree temper
  · obtain ⟨hafter, hgranted⟩ := start_of_registers hregisters
    obtain ⟨hstarts, hidle⟩ : temper.failure? = none ∧ w.held = none := by
      have hboth : ¬ (temper.failure? ≠ none ∨ w.held ≠ none) :=
        fun hslip => hslips ⟨hregisters, hslip⟩
      rwa [not_or, not_not, not_not] at hboth
    have hheld : (WatcherCall.after w (.start tree temper)).held = some w.made := by
      rw [hafter]
      simp [hstarts]
    have hwatched : (WatcherCall.after w (.start tree temper)).watched =
        w.accepted tree temper := by
      rw [hafter, h.watched_of_idle hidle]
      rfl
    refine ⟨fun n hn => ?_, fun hnone => by simp [hheld] at hnone, fun n hn => ?_⟩
    · obtain rfl := Option.some.inj (hheld.symm.trans hn)
      rw [hwatched, registeredOn_granted hregisters hnumbered, hafter]
      exact ⟨rfl, nodup_accepted hlawful hlinks, head?_accepted hregisters.2⟩
    · rcases List.mem_append.1 hn with hearlier | hnew
      · obtain ⟨limit, hended⟩ := (h.ended n hearlier).resolve_left (by simp [hidle])
        exact .inr ⟨limit, hended.trans (List.sublist_append_left _ _)⟩
      · have hsame : n = w.made := observer_of_mem_granted hnew
        rw [hsame]
        exact .inl hheld
  · obtain ⟨⟨made, -, hafter⟩, hgranted⟩ := start_of_not_registers hregisters
    rw [hafter, hgranted, List.append_nil]
    exact ⟨h.watched_of_held, h.watched_of_idle, h.ended⟩

/-- Of a watcher whose list matches, a call keeps it so exactly if it does not slip. -/
theorem matches_after_iff (h : Matches w done) (hnumbered : Numbered w done) (hlawful : c.Lawful) :
    Matches (c.after w) (done ++ c.granted w) ↔ ¬ c.Slips w := by
  cases c with
  | stop limit => exact iff_of_true (matches_stop h limit) id
  | start tree temper =>
      exact ⟨fun hmatches hslips => not_matches_of_slips h hnumbered hslips hmatches,
        matches_start h hnumbered hlawful.1 hlawful.2⟩

/-! ## One call after the other -/

/-- The watcher that calls leave, one after the other. -/
def follow (w : Watcher) (calls : List WatcherCall) : Watcher :=
  calls.foldl (fun w c => c.after w) w

/-- What calls have done by observers, in order. -/
def grantedBy (w : Watcher) : List WatcherCall → List ObserverCall
  | [] => []
  | c :: rest => c.granted w ++ (c.after w).grantedBy rest

/-- After every call the list matches, exactly if no call slips. -/
theorem matches_follow_iff (h : Matches w done) (hnumbered : Numbered w done)
    (hlawful : ∀ c ∈ calls, c.Lawful) :
    (∀ before, before <+: calls → Matches (w.follow before) (done ++ w.grantedBy before)) ↔
      ∀ before c, before ++ [c] <+: calls → ¬ c.Slips (w.follow before) := by
  induction calls generalizing w done with
  | nil =>
      refine iff_of_true (fun before hbefore => ?_) fun before c hbefore => ?_
      · rw [List.prefix_nil.1 hbefore]
        simpa [grantedBy, follow] using h
      · exact absurd (List.prefix_nil.1 hbefore) (by simp)
  | cons c rest ih =>
      have hc := matches_after_iff h hnumbered (hlawful c List.mem_cons_self)
      have hrest : ∀ d ∈ rest, d.Lawful := fun d hd => hlawful d (List.mem_cons_of_mem c hd)
      constructor
      · intro hmatches before d hbefore
        have hfirst : Matches (c.after w) (done ++ c.granted w) := by
          simpa [grantedBy, follow] using hmatches [c] (by simp)
        cases before with
        | nil =>
            obtain rfl : d = c := by simpa using hbefore
            exact hc.1 hfirst
        | cons first before =>
            obtain ⟨rfl, hlater⟩ := List.cons_prefix_cons.1 hbefore
            refine (ih hfirst (hnumbered.after first) hrest).1 (fun before' hbefore' => ?_) before d
              hlater
            simpa [grantedBy, follow] using
              hmatches (first :: before') (List.cons_prefix_cons.2 ⟨rfl, hbefore'⟩)
      · intro hslips before hbefore
        cases before with
        | nil => simpa [grantedBy, follow] using h
        | cons first before =>
            obtain ⟨rfl, hlater⟩ := List.cons_prefix_cons.1 hbefore
            have hfirst := hc.2 (hslips [] first (by simp))
            have hmatches := (ih hfirst (hnumbered.after first) hrest).2 fun before' d hbefore' =>
              hslips (first :: before') d (List.cons_prefix_cons.2 ⟨rfl, hbefore'⟩)
            simpa [grantedBy, follow] using hmatches before hlater

/-! ## Whatever the calls -/

theorem follow_concat (w : Watcher) (calls : List WatcherCall) (c : WatcherCall) :
    w.follow (calls ++ [c]) = c.after (w.follow calls) :=
  List.foldl_concat ..

theorem grantedBy_append (w : Watcher) (calls more : List WatcherCall) :
    w.grantedBy (calls ++ more) = w.grantedBy calls ++ (w.follow calls).grantedBy more := by
  induction calls generalizing w with
  | nil => rfl
  | cons c rest ih => simp [grantedBy, follow, ih]

theorem grantedBy_concat (w : Watcher) (calls : List WatcherCall) (c : WatcherCall) :
    w.grantedBy (calls ++ [c]) = w.grantedBy calls ++ c.granted (w.follow calls) := by
  rw [grantedBy_append]
  simp [grantedBy]

/-- A start lists what it registers behind what is listed already. -/
theorem watched_start (w : Watcher) (tree : FileTree) (temper : ObserverTemper) :
    (WatcherCall.after w (.start tree temper)).watched =
      w.watched ++ (WatcherCall.granted w (.start tree temper)).filterMap (·.directory?) := by
  by_cases hregisters : w.Registers tree temper
  · obtain ⟨hafter, hgranted⟩ := start_of_registers hregisters
    rw [hafter, hgranted]
    split <;> simp [List.filterMap_map, ObserverCall.directory?]
  · obtain ⟨⟨made, -, hafter⟩, hgranted⟩ := start_of_not_registers hregisters
    rw [hafter, hgranted]
    exact (List.append_nil _).symm

/-- Listed are the directories that were registered since the last stop, on whichever observers. -/
theorem watched_follow (hw : w.watched = []) (calls : List WatcherCall) :
    (w.follow calls).watched =
      ((w.follow (calls.rdropWhile (·.isStart))).grantedBy
        (calls.rtakeWhile (·.isStart))).filterMap (·.directory?) := by
  induction calls using List.reverseRecOn with
  | nil => simpa [follow, grantedBy] using hw
  | append_singleton calls c ih =>
      have hsplit : calls.rdropWhile (·.isStart) ++ calls.rtakeWhile (·.isStart) = calls :=
        List.rdropWhile_append_rtakeWhile
      rw [follow_concat]
      cases c with
      | stop limit =>
          rw [List.rtakeWhile_concat_neg _ _ _ (by simp [WatcherCall.isStart])]
          rfl
      | start tree temper =>
          have hfollow : (w.follow (calls.rdropWhile (·.isStart))).follow
              (calls.rtakeWhile (·.isStart)) = w.follow calls := by
            rw [follow, follow, ← List.foldl_append, hsplit]
            rfl
          rw [List.rtakeWhile_concat_pos _ _ _ rfl, List.rdropWhile_concat_pos _ _ _ rfl,
            watched_start, ih, grantedBy_concat, hfollow, List.filterMap_append]

/-- Another observer is held in place of one that was not stopped. -/
def Replaced (w : Watcher) (calls : List WatcherCall) (n : ℕ) : Prop :=
  ∃ before tree temper later, calls = before ++ .start tree temper :: later ∧
    (w.follow before).held = some n ∧
    WatcherCall.Slips (w.follow before) (.start tree temper) ∧ temper.failure? = none

/-- An observer that was started is held, or it was stopped and its end awaited, or another one was
    put in its place. -/
theorem held_or_ended_or_replaced (w : Watcher) (calls : List WatcherCall)
    (hn : .start n ∈ w.grantedBy calls) :
    (w.follow calls).held = some n ∨
      (∃ limit, List.Sublist [.stop n, .join n limit] (w.grantedBy calls)) ∨
      w.Replaced calls n := by
  induction calls using List.reverseRecOn with
  | nil => exact absurd hn List.not_mem_nil
  | append_singleton calls c ih =>
      rw [grantedBy_concat] at hn ⊢
      rw [follow_concat]
      by_cases hearlier : .start n ∈ w.grantedBy calls
      · rcases ih hearlier with
          hheld | ⟨limit, hended⟩ | ⟨before, tree, temper, later, rfl, hbefore⟩
        · cases c with
          | stop limit =>
              refine .inr (.inl ⟨limit, ?_⟩)
              simp only [WatcherCall.granted, stop, hheld]
              exact List.sublist_append_right _ _
          | start tree temper =>
              by_cases hregisters : (w.follow calls).Registers tree temper
              · rw [(start_of_registers hregisters).1]
                cases hfailure : temper.failure? with
                | none =>
                    exact .inr (.inr ⟨calls, tree, temper, [], rfl, hheld,
                      ⟨hregisters, .inr (by simp [hheld])⟩, hfailure⟩)
                | some reason => exact .inl (by simpa using hheld)
              · obtain ⟨⟨made, -, hafter⟩, -⟩ := start_of_not_registers hregisters
                rw [hafter]
                exact .inl hheld
        · exact .inr (.inl ⟨limit, hended.trans (List.sublist_append_left _ _)⟩)
        · exact .inr (.inr ⟨before, tree, temper, later ++ [c], by simp, hbefore⟩)
      · have hnew := (List.mem_append.1 hn).resolve_left hearlier
        cases c with
        | stop limit =>
            simp only [WatcherCall.granted, stop] at hnew
            split at hnew <;> simp at hnew
        | start tree temper =>
            have hsame : n = (w.follow calls).made := observer_of_mem_granted hnew
            by_cases hregisters : (w.follow calls).Registers tree temper
            · obtain ⟨hafter, hgranted⟩ := start_of_registers hregisters
              have hstarts : temper.failure? = none := by
                by_contra hfails
                rw [hgranted, if_neg hfails] at hnew
                simp at hnew
              rw [hafter, hsame]
              exact .inl (by simp [hstarts])
            · rw [(start_of_not_registers hregisters).2] at hnew
              exact absurd hnew List.not_mem_nil

/-! ## Altogether -/

/-- What holds of a watcher's list and of its observers after any calls. -/
structure Observes (root : Text) (calls : List WatcherCall) : Prop where
  /-- Listed are the directories that were registered since the last stop. -/
  watched_eq : ((ofRoot root).follow calls).watched =
    (((ofRoot root).follow (calls.rdropWhile (·.isStart))).grantedBy
      (calls.rtakeWhile (·.isStart))).filterMap (·.directory?)
  /-- Only a start while another observer is held lets go of an observer that goes on. -/
  started : ∀ n, .start n ∈ (ofRoot root).grantedBy calls →
    ((ofRoot root).follow calls).held = some n ∨
      (∃ limit, List.Sublist [.stop n, .join n limit] ((ofRoot root).grantedBy calls)) ∨
      (ofRoot root).Replaced calls n
  /-- After every call the list is that of the held observer, exactly if no call slips. -/
  matches_iff : (∀ before, before <+: calls →
      Matches ((ofRoot root).follow before) ((ofRoot root).grantedBy before)) ↔
    ∀ before c, before ++ [c] <+: calls → ¬ c.Slips ((ofRoot root).follow before)

/-- **A watcher lists what its observer watches, unless a start slips.** After any starts and stops,
    whatever becomes of each of them, the list holds what was registered since the last stop; it is
    the list of the observer that is held, and every other one has ended, as long as no start
    registers directories without holding their observer or while it holds another one. -/
theorem observes_of_lawful (root : Text) (hlawful : ∀ c ∈ calls, c.Lawful) :
    Observes root calls := by
  refine ⟨watched_follow rfl calls, fun n hn => held_or_ended_or_replaced _ calls hn, ?_⟩
  exact matches_follow_iff (matches_ofRoot root) (numbered_ofRoot root) hlawful

/-- A site with a directory in its directory. -/
def nestedSite : FileTree where
  nodes := [(["site".toList], .directory), (["site".toList, "blog".toList], .directory),
    (["site".toList, "blog".toList, "img".toList], .directory)]
  cwd := []

/-- A system that takes everything. -/
def calm : ObserverTemper where
  refusal? := fun _ => none
  failure? := none

/-- A system in which observers do not start. -/
def crowded : ObserverTemper where
  refusal? := fun _ => none
  failure? := some "[Errno 24] too many open files"

/-- A system that refuses one directory of the site, among whose files there is a link. -/
def refusing : ObserverTemper where
  links := [["site".toList, "blog".toList, "img".toList, "old".toList]]
  refusal? := fun d => if d = "site/blog".toList then some "full" else none
  failure? := none

/-- The watcher is started again after a stop, when one directory is refused. -/
theorem observes_nestedSite :
    let calls : List WatcherCall :=
      [.start nestedSite calm, .stop (.whole 5), .start nestedSite refusing]
    (∀ c ∈ calls, c.Lawful) ∧ Observes "site" calls ∧
      ((ofRoot "site").follow calls).watched =
        ["site".toList, "site/blog/img".toList, "site/blog/img/old".toList] := by
  intro calls
  have hlawful : ∀ c ∈ calls, c.Lawful := by
    have htree : nestedSite.Lawful := by decide
    have hcalm : calm.Lawful nestedSite := ⟨List.nodup_nil, nofun, nofun⟩
    have hrefusing : refusing.Lawful nestedSite := ⟨by decide, by decide, by decide⟩
    simp [calls, WatcherCall.Lawful, htree, hcalm, hrefusing]
  exact ⟨hlawful, observes_of_lawful "site" hlawful, by decide +kernel⟩

/-- The directories stay listed when the observer does not start, and a second start lets go of the
    first observer, which goes on. -/
theorem not_matches_slips :
    nestedSite.Lawful ∧
      ¬ Matches ((ofRoot "site").follow [.start nestedSite crowded])
          ((ofRoot "site").grantedBy [.start nestedSite crowded]) ∧
      ¬ Matches ((ofRoot "site").follow [.start nestedSite calm, .start nestedSite calm])
          ((ofRoot "site").grantedBy [.start nestedSite calm, .start nestedSite calm]) := by
  refine ⟨by decide, fun h => ?_, fun h => ?_⟩
  · exact absurd (h.watched_of_idle (by decide +kernel)) (by decide +kernel)
  · exact absurd (h.watched_of_held 1 (by decide +kernel)).2.1 (by decide +kernel)

end Watcher
end Watch
end PageLoom
