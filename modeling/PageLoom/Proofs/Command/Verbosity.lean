import PageLoom.Command.Run
import PageLoom.Log.Connection
import PageLoom.Proofs.Result
import PageLoom.Proofs.Site.Report
import PageLoom.Proofs.Site.Verbosity

set_option autoImplicit false

/-! # Verbosity changes nothing but what is shown

A run at a verbosity is set beside the same run at a higher one. The states of the two runs differ
in the verbosity, and what they work on differs in notes the lower verbosity does not show
(`SameShownRun`); each stage keeps it so and ends alike (`unmoved_stages`). So both runs end the
same way with the same files, and the lower verbosity shows those records of the higher one that it
allows (`unswayed_building`). None of this depends on the engine, or on how manifests and
configurations are read. -/

namespace PageLoom

/-! ## Records -/

namespace Log

/-- The records that notes leave while a state with a verbosity is connected. -/
def records (v : Int) (notes : List Entry) : Except NoteFault (List Entry) := do
  let verbosity := (Connection.none.connect true (.int v)).verbosity true
  let made ← notes.mapM fun e => note verbosity e.message e.level e.severity.name []
  return made.reduceOption

theorem ofName?_name (s : Severity) : Severity.ofName? s.name = some s := by
  cases s <;> rfl

theorem note_of_entry (v : Int) (e : Entry) :
    note (.ok v) e.message e.level e.severity.name [] =
      pure (if e.shownAt v then some e else none) := by
  unfold note
  by_cases hshown : e.level ≤ v
  · have hlevel : ¬ v < e.level := Int.not_lt.2 hshown
    simp [Entry.shownAt, hshown, hlevel, ofName?_name, Except.mapError, Result.pure_eq, bind,
      Except.bind]
  · have hlevel : v < e.level := Int.not_le.1 hshown
    simp [Entry.shownAt, hshown, hlevel, Except.mapError, bind, Except.bind]

/-- Each note that the verbosity shows leaves its record, and no other note does. -/
theorem records_eq (v : Int) (notes : List Entry) :
    records v notes = .ok (shownEntries v notes) := by
  have hverbosity : (Connection.none.connect true (.int v)).verbosity true = .ok v := rfl
  simp only [records, hverbosity, note_of_entry, List.mapM_pure, pure_bind]
  change Except.ok ((notes.map _).filterMap id) = _
  rw [List.filterMap_map]
  exact congrArg Except.ok (congrFun List.filterMap_eq_filter notes)

end Log

namespace Command

open Stateful

variable {v w : Int} {tools : Tools}

/-! ## Steps of a run -/

/-- Two worlds that differ at most in notes a verbosity does not show. -/
structure SameShownRun (v : Int) (a b : RunWorld) : Prop where
  settings : a.settings = b.settings
  work : SameShown v a.work b.work
  serverFailure : a.serverFailure = b.serverFailure
  servers : a.servers = b.servers

theorem SameShownRun.refl (world : RunWorld) : SameShownRun v world world :=
  ⟨rfl, .refl _, rfl, rfl⟩

theorem outcome_doWork {α : Type} (m : Work α) (world : RunWorld) :
    outcome (Run.doWork m) world =
      (.ok (outcome m world.work).1, { world with work := (outcome m world.work).2 }) := rfl

theorem steady_doWork {α : Type} {m : Work α} (hm : Steady (SameShown v) m) :
    Steady (SameShownRun v) (Run.doWork m) := by
  intro a b h
  obtain ⟨hend, hleft⟩ := hm a.work b.work h.work
  rw [outcome_doWork, outcome_doWork, endAlike_eq_iff.1 hend]
  exact ⟨.given rfl, h.settings, hleft, h.serverFailure, h.servers⟩

theorem steady_tree : Steady (SameShownRun v) Run.tree :=
  steady_get_bind fun a b h => ⟨by rw [h.work.tree], steady_pure _⟩

theorem steady_lookUp {α : Type} (question : FileTree → Except FileFault α) :
    Steady (SameShownRun v) (Run.lookUp question) := by
  refine steady_tree.bind fun tree => ?_
  split
  · exact steady_pure _
  · exact steady_throw _

theorem steady_note (e : Entry) : Steady (SameShownRun v) (Run.note e) := by
  refine steady_modify fun a b h => ⟨h.settings, ⟨h.work.tree, h.work.npm, h.work.commands, ?_⟩,
    h.serverFailure, h.servers⟩
  rw [shownEntries_append, shownEntries_append, h.work.notes]

/-- A note that is not shown may as well not be made. -/
theorem alike_note_of_hidden {e : Entry} (h : e.shownAt v = false) :
    Alike (SameShownRun v) Eq (pure ()) (Run.note e) := by
  refine fun a b hworlds => ⟨.given rfl, hworlds.settings, ⟨hworlds.work.tree, hworlds.work.npm,
    hworlds.work.commands, ?_⟩, hworlds.serverFailure, hworlds.servers⟩
  have hnone : shownEntries v [e] = [] := List.filter_eq_nil_iff.2 (by simp [h])
  have hnotes : shownEntries v (b.work.notes ++ [e]) = shownEntries v b.work.notes := by
    rw [shownEntries_append, hnone, List.append_nil]
  exact hworlds.work.notes.trans hnotes.symm

theorem steady_fail {α : Type} (report : Text) :
    Steady (SameShownRun v) (Stage.fail report : Run α) := steady_throw _

/-! ## Checking the surroundings -/

namespace Stage

theorem greet_eq (verbosity : Int) :
    greet verbosity = (if 2 ≤ verbosity then Run.note (.debug 2 banner) else pure ()) >>=
      fun _ => Run.note (.debug 2 "Checking environment...") := by
  unfold greet
  split <;> simp

/-- The banner is made only where it is shown. -/
theorem alike_greet (h : v ≤ w) : Alike (SameShownRun v) Eq (greet v) (greet w) := by
  have hbanner : Alike (SameShownRun v) Eq
      (if 2 ≤ v then Run.note (.debug 2 banner) else pure ())
      (if 2 ≤ w then Run.note (.debug 2 banner) else pure ()) := by
    by_cases hv : 2 ≤ v
    · rw [if_pos hv, if_pos (Int.le_trans hv h)]
      exact steady_note _
    · rw [if_neg hv]
      split
      · exact alike_note_of_hidden (decide_eq_false hv)
      · exact steady_pure _
  rw [greet_eq, greet_eq]
  exact hbanner.bind fun _ _ _ => steady_note _

theorem steady_requireSite (site : Text) : Steady (SameShownRun v) (requireSite site) := by
  refine (steady_lookUp _).bind fun there => ?_
  split
  · exact steady_note _
  · exact steady_fail _

theorem steady_showConfig (path : Text) : Steady (SameShownRun v) (showConfig path) := by
  refine (steady_lookUp _).bind fun there => ?_
  split
  · exact steady_note _
  · exact steady_pure _

theorem steady_configPath (named : Option Text) (site : Text) :
    Steady (SameShownRun v) (configPath named site) := by
  unfold configPath
  split
  · refine (steady_lookUp _).bind fun there => ?_
    split
    · exact steady_pure _
    · exact steady_fail _
  · exact steady_tree.bind fun tree => steady_pure _

theorem steady_loadConfig (tools : Tools) (path : Text) :
    Steady (SameShownRun v) (loadConfig tools path) := by
  refine steady_tree.bind fun tree => ?_
  split
  · exact steady_pure _
  · split
    · exact steady_fail _
    · exact steady_throw _

theorem steady_makeOutput (dist : Text) : Steady (SameShownRun v) (makeOutput dist) := by
  refine (steady_doWork (Work.steady_makeDirectories _)).bind fun result => ?_
  split
  · exact steady_note _
  · exact steady_throw _

/-! ## The stages -/

/-- The states of two runs that differ in the verbosity alone. -/
structure Quieter (v : Int) (s s' : RunState) : Prop where
  eq : s = { s' with verbosity := v }
  le : v ≤ s'.verbosity

/-- Two runs of a stage, the first of them at a verbosity that the second has or exceeds. -/
def Unmoved (v : Int) (stage : RunState → Run RunState) : Prop :=
  ∀ s s', Quieter v s s' → Alike (SameShownRun v) (Quieter v) (stage s) (stage s')

theorem unmoved_settleBundler (config : ProjectConfig) (parent : Text) :
    Unmoved v (settleBundler · config parent) := by
  rintro _ s ⟨rfl, hle⟩
  unfold settleBundler
  dsimp only
  split
  · exact alike_pure ⟨rfl, hle⟩
  · refine (steady_lookUp _).bind_alike fun there => ?_
    split
    · exact alike_pure ⟨rfl, hle⟩
    · split
      · exact alike_throw _
      · exact (steady_note _).bind_alike fun _ => alike_pure ⟨rfl, hle⟩

theorem unmoved_settle (config : ProjectConfig) : Unmoved v (settle config) := by
  rintro _ s ⟨rfl, hle⟩
  refine alike_get.bind fun a b h => ?_
  rw [h.settings]
  dsimp only
  split
  · exact alike_pure ⟨rfl, hle⟩
  · exact (steady_makeOutput _).bind_alike fun _ => alike_pure ⟨rfl, hle⟩

theorem unmoved_check : Unmoved v (check tools) := by
  rintro _ s ⟨rfl, hle⟩
  have hsite : Quieter v { s with verbosity := v, site := SitePath.tidy s.inputDir }
      { s with site := SitePath.tidy s.inputDir } := ⟨rfl, hle⟩
  unfold check
  refine (alike_greet hle).bind fun _ _ _ => ?_
  dsimp only
  refine (steady_requireSite _).bind_alike fun _ => ?_
  refine (steady_configPath _ _).bind_alike fun path => ?_
  refine (steady_loadConfig tools path).bind_alike fun config => ?_
  refine (steady_showConfig path).bind_alike fun _ => ?_
  refine (unmoved_settleBundler config _ _ _ hsite).bind ?_
  rintro _ t ⟨rfl, hle⟩
  exact (steady_note _).bind_alike fun _ => unmoved_settle config _ _ ⟨rfl, hle⟩

theorem unmoved_build : Unmoved v (build tools) := by
  rintro _ s ⟨rfl, hle⟩
  unfold build
  dsimp only
  split
  · exact alike_pure ⟨rfl, hle⟩
  · refine alike_get.bind fun a b h => ?_
    rw [h.settings]
    refine (steady_doWork Build.steady_run).bind_alike fun result => ?_
    split
    · exact alike_pure ⟨rfl, hle⟩
    · exact alike_throw _
    · exact alike_throw _

theorem steady_order (order : ServerOrder) :
    Steady (SameShownRun v)
      (modify fun world => { world with servers := world.servers ++ [order] } : Run Unit) :=
  steady_modify fun _ _ h => ⟨h.settings, h.work, h.serverFailure, by rw [h.servers]⟩

theorem unmoved_serve : Unmoved v serve := by
  rintro _ s ⟨rfl, hle⟩
  unfold serve
  dsimp only
  split
  · exact alike_pure ⟨rfl, hle⟩
  · refine alike_get.bind fun a b h => ?_
    rw [h.settings]
    refine (steady_order _).bind_alike fun _ => alike_get.bind fun a b h => ?_
    rw [h.serverFailure]
    split
    · exact alike_throw _
    · exact alike_pure ⟨rfl, hle⟩

theorem unmoved_report : Unmoved v report := by
  rintro _ s ⟨rfl, hle⟩
  unfold report
  dsimp only
  split
  · exact (steady_note _).bind_alike fun _ => alike_pure ⟨rfl, hle⟩
  · split
    · exact alike_throw _
    · refine (steady_note _).bind_alike fun _ => (steady_note _).bind_alike fun _ =>
        (steady_note _).bind_alike fun _ => (steady_note _).bind_alike fun _ => ?_
      split
      · exact (steady_note _).bind_alike fun _ => alike_pure ⟨rfl, hle⟩
      · exact alike_pure ⟨rfl, hle⟩

theorem unmoved_of_mem {stage : RunState → Run RunState} (h : stage ∈ all tools) :
    Unmoved v stage := by
  simp only [all, List.mem_cons, List.not_mem_nil, or_false] at h
  rcases h with rfl | rfl | rfl | rfl
  · exact unmoved_check
  · exact unmoved_build
  · exact unmoved_serve
  · exact unmoved_report

/-- Stages one after the other. -/
theorem unmoved_stages {stages : List (RunState → Run RunState)} (h : stages ⊆ all tools) :
    Unmoved v (Run.stages stages) := by
  induction stages with
  | nil => exact fun s s' hquieter => alike_pure hquieter
  | cons stage rest ih =>
      rw [List.cons_subset] at h
      exact fun s s' hquieter =>
        (unmoved_of_mem h.1 s s' hquieter).bind fun t t' ht => ih h.2 t t' ht

end Stage

/-! ## Two verbosities -/

/-- The stages that build a site. -/
def Stage.building (tools : Tools) : List (RunState → Run RunState) :=
  [check tools, Stage.build tools, Stage.report]

/-- What a run and the same run at a higher verbosity have in common. -/
structure Unswayed (v w : Int) (lower higher : Except RunFault RunState × RunWorld) : Prop where
  /-- The same fault, or the same state but for the verbosity. -/
  result : lower.1 = higher.1.map ({ · with verbosity := v })
  /-- The same exit code and the same report. -/
  ending : Outcome.ofResult lower.1 = Outcome.ofResult higher.1
  tree : lower.2.work.tree = higher.2.work.tree
  commands : lower.2.work.commands = higher.2.work.commands
  servers : lower.2.servers = higher.2.servers
  /-- Of the records of the higher verbosity, those that the lower one allows. -/
  records : ∃ made, Log.records w higher.2.work.notes = .ok made ∧
    Log.records v lower.2.work.notes = .ok (made.filter fun e => e.level ≤ v)

theorem ofResult_map {α β : Type} (f : α → β) (r : Except RunFault α) :
    Outcome.ofResult (r.map f) = Outcome.ofResult r := by
  cases r with
  | ok a => rfl
  | error fault => cases fault <;> rfl

theorem unswayed_of_endAlike (hle : v ≤ w) {lower higher : Except RunFault RunState × RunWorld}
    (hend : EndAlike (Stage.Quieter v) lower.1 higher.1)
    (hleft : SameShownRun v lower.2 higher.2) : Unswayed v w lower higher := by
  have hresult : lower.1 = higher.1.map ({ · with verbosity := v }) := by
    generalize lower.1 = r, higher.1 = r' at hend
    cases hend with
    | given h => exact congrArg Except.ok h.eq
    | failed fault => rfl
  refine ⟨hresult, by rw [hresult, ofResult_map], hleft.work.tree, hleft.work.commands,
    hleft.servers, _, Log.records_eq w _, ?_⟩
  rw [Log.records_eq, hleft.work.notes, ← shownEntries_shownEntries hle]
  rfl

/-- **Verbosity changes nothing but what is shown.** Building a site at a verbosity and at a higher
    one ends the same way, with any tools, from every state and whatever there is, with the same
    files and the same commands, and the lower verbosity leaves those records of the higher one that
    it allows. -/
theorem unswayed_building (tools : Tools) (hle : v ≤ w) (s : RunState) (world : RunWorld) :
    Unswayed v w (outcome (Run.stages (Stage.building tools) { s with verbosity := v }) world)
      (outcome (Run.stages (Stage.building tools) { s with verbosity := w }) world) := by
  have hsubset : Stage.building tools ⊆ Stage.all tools := by simp [Stage.building, Stage.all]
  have hquieter : Stage.Quieter v { s with verbosity := v } { s with verbosity := w } := ⟨rfl, hle⟩
  obtain ⟨hend, hleft⟩ := Stage.unmoved_stages hsubset _ _ hquieter _ _ (.refl world)
  exact unswayed_of_endAlike hle hend hleft

/-- Tools for sites without scripts, manifests and configurations. -/
def idleTools : Tools where
  host := Build.idleHost
  manifests := fun _ => .ok []
  configs := ⟨Unit, fun _ => .ok .nothing, fun _ => .ok .empty⟩

/-- The site with a page and a picture, built with and without its details being shown. -/
theorem unswayed_pictureSite :
    let world : RunWorld := ⟨{}, Build.pictureSite, none, []⟩
    let s : RunState := { inputDir := "site", outputDir := "dist" }
    let plain := outcome (Run.stages (Stage.building idleTools) { s with verbosity := 1 }) world
    let detailed := outcome (Run.stages (Stage.building idleTools) { s with verbosity := 3 }) world
    (1 : Int) ≤ 3 ∧ Unswayed 1 3 plain detailed ∧
      plain.1.toOption.bind (·.report) = some Build.pictureReport ∧
      (shownEntries 1 plain.2.work.notes).length = 12 ∧
      (shownEntries 3 detailed.2.work.notes).length = 19 :=
  ⟨by decide, unswayed_building idleTools (by decide) { inputDir := "site", outputDir := "dist" } _,
    by decide +kernel, by decide +kernel, by decide +kernel⟩

theorem steady_noDirectory (path : Text) : Steady (SameShownRun v) (noDirectory path) :=
  steady_throw _

theorem steady_prepareDirectories (l : Line) : Steady (SameShownRun v) (prepareDirectories l) := by
  have hinput : Steady (SameShownRun v) (do
      unless ← Run.lookUp (·.isDirectory l.inputDir) do noDirectory l.inputDir) := by
    refine (steady_lookUp _).bind fun there => ?_
    split
    · exact steady_pure _
    · exact steady_noDirectory _
  refine (steady_lookUp _).bind fun there => ?_
  dsimp only
  split
  · refine (steady_lookUp _).bind fun directory => ?_
    split
    · exact hinput
    · exact (steady_noDirectory _).bind fun _ => hinput
  · refine (steady_doWork (Work.steady_makeDirectories _)).bind fun result => ?_
    split
    · exact hinput
    · exact (steady_throw _).bind fun _ => hinput

/-- The whole command, for a build or a server, is no more swayed by its verbosity. -/
theorem unswayed_runLine (tools : Tools) (hle : v ≤ w) (l : Line) (world : RunWorld) :
    Unswayed v w (outcome (runLine tools { l with verbosity := v }) world)
      (outcome (runLine tools { l with verbosity := w }) world) := by
  have hquieter : Stage.Quieter v (.ofLine { l with verbosity := v })
      (.ofLine { l with verbosity := w }) := ⟨rfl, hle⟩
  have hrun : Alike (SameShownRun v) (Stage.Quieter v) (runLine tools { l with verbosity := v })
      (runLine tools { l with verbosity := w }) :=
    (steady_prepareDirectories l).bind_alike fun _ =>
      Stage.unmoved_stages (List.Subset.refl _) _ _ hquieter
  obtain ⟨hend, hleft⟩ := hrun _ _ (.refl world)
  exact unswayed_of_endAlike hle hend hleft

end Command
end PageLoom
