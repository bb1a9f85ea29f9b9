import PageLoom.Proofs.FileTree.Below
import PageLoom.Proofs.FileTree.Replay
import PageLoom.Proofs.Site.Frame

set_option autoImplicit false

/-! # Building a site again

A build that succeeds can be made again at once, and changes nothing then. The second build finds
the same files, since the first one has written none of them, and the same manifest, since that is
not written either; then it writes the same files in the same order, each where the first one could
write it too (`Abreast`). -/

namespace PageLoom

namespace Manifest

/-- The mapping of a manifest is a matter of what its file holds, if it can be read. -/
theorem load_congr {reader : Reader} {tree tree' : FileTree} {dist : Text}
    {mapping : List (Text × Text)} {e : Entry}
    (hread : ∀ content, tree'.read (pathIn dist) = .ok content ↔
      tree.read (pathIn dist) = .ok content)
    (h : load reader tree dist = .ok (mapping, e)) :
    ∃ e', load reader tree' dist = .ok (mapping, e') := by
  cases hbefore : tree.read (pathIn dist) with
  | ok content =>
      have hsame : load reader tree' dist = load reader tree dist := by
        rw [load, load, read, read, (hread content).2 hbefore, hbefore]
      exact ⟨e, hsame.trans h⟩
  | error fault =>
      cases hafter : tree'.read (pathIn dist) with
      | ok content => exact absurd (hbefore.symm.trans ((hread content).1 hafter)) nofun
      | error fault' =>
          -- Only a path that is none makes loading fail, and that fails in any tree.
          have hnull : (∃ other, fault' = .nullCharacter other) →
              ∃ other, fault = .nullCharacter other := by
            rintro ⟨other, rfl⟩
            obtain ⟨other', hother⟩ := FileTree.read_eq_nullCharacter_iff.2
              (FileTree.read_eq_nullCharacter_iff.1 ⟨other, hafter⟩)
            exact ⟨other', Except.error.inj (hbefore.symm.trans hother)⟩
          simp only [load, read, hbefore] at h
          simp only [load, read, hafter]
          cases fault' with
          | nullCharacter other =>
              obtain ⟨_, rfl⟩ := hnull ⟨other, rfl⟩
              cases h
          | _ =>
              cases fault with
              | nullCharacter => cases h
              | _ =>
                  obtain ⟨rfl, -⟩ := Prod.mk.inj (Except.ok.inj h)
                  exact ⟨_, rfl⟩

end Manifest

namespace Build

open Stateful SitePath

variable {b : Build} {base tree : FileTree} {w w' again last : Workspace} {r : BuildReport}
  {manifest : List (Text × Text)} {rel path : Text} {l : Location} {files : List Text}

theorem not_output_sitePlace (hlawful : base.Lawful) (h : Found b base rel) :
    ¬ Output b base (b.sitePlace base rel) :=
  fun hout => not_below_sitePlace hlawful h (hout.below hlawful).1

/-! ## One step of two builds -/

/-- Two builds that are equally far: the one has yet to reach the tree that the other began with. -/
structure Abreast (b : Build) (base last tree again : FileTree) : Prop where
  stage : Stage b base tree
  replays : FileTree.Replays (Output b base) last tree again

section Step

variable (haside : Aside b base) (h : Abreast b base last.tree w.tree again.tree)
  (hahead : Confined base (Output b base) w' last)

include haside h hahead

/-- An operation that can be done the second time in the tree in which it was done the first time
    can be done with the directories made for it. -/
theorem Abreast.place {operation : FileTree → FileTree × Except FileFault Unit}
    (hoperation : ∀ tree : FileTree, tree.Lawful → tree.cwd = base.cwd →
      FileTree.Touches (Output b base) tree (operation tree).1)
    (hagain : ∀ made, made.Lawful → made.cwd = base.cwd →
      FileTree.Replays (Output b base) last.tree made again.tree →
      operation made = (w'.tree, .ok ()) → FileTree.Touches (Output b base) w'.tree last.tree →
        ∃ after, operation again.tree = (after, .ok ()) ∧
          FileTree.Replays (Output b base) last.tree w'.tree after)
    {u : Unit} (hgives : Gives (PageLoom.place path operation) w u w') :
    ∃ again', Gives (PageLoom.place path operation) again u again' ∧
      Abreast b base last.tree w'.tree again'.tree := by
  have hcwd := h.stage.touches.cwd
  have hstep := (leaves_place hoperation path).gives hgives h.stage.lawful hcwd
  have hstage : Stage b base w'.tree := h.stage.next hstep fun l hl => (hl.below haside.lawful).1
  have hlast := hahead hstage.lawful hstage.touches.cwd
  obtain ⟨hmade, after, hafter, rfl⟩ := gives_place_iff.1 hgives
  obtain ⟨htouches, hdirectory⟩ := w.tree.touches_makeDirectories (FileTree.above path)
  have hlawful := htouches.lawful h.stage.lawful
  have hmadeCwd := htouches.cwd.trans hcwd
  have hoperated := hoperation _ hlawful hmadeCwd
  rw [hafter] at hoperated
  have hreplays := h.replays.of_made htouches (hoperated.trans hlast)
  -- The directories that were made the first time are there the second time.
  have hthere := hreplays.touches.isDirectory (hdirectory hmade)
  obtain ⟨after', hdone, hnext⟩ := hagain _ hlawful hmadeCwd hreplays hafter hlast
  refine ⟨{ again with tree := after' }, gives_place_iff.2 ?_, hstage, hnext⟩
  rw [FileTree.makeDirectories_of_isDirectory hthere]
  exact ⟨rfl, after', hdone, rfl⟩

theorem Abreast.compilePage {p : Text × Text} (hfound : Found b base rel)
    (htemplate : isTemplate b.settings rel = true)
    (hgives : Gives (b.compilePage manifest rel) w p w') :
    ∃ again', Gives (b.compilePage manifest rel) again p again' ∧
      Abreast b base last.tree w'.tree again'.tree := by
  obtain ⟨page, hpage, hwrite⟩ := gives_compilePage_iff.1 hgives
  obtain ⟨w₁, hfile, rfl, rfl⟩ := gives_writePage_iff.1 hwrite
  have hout : ¬ Output b base (w.tree.resolve (child b.site rel)) := by
    rw [h.stage.touches.resolve]
    exact not_output_sitePlace haside.lawful hfound
  have hsame := Page.ofFile_of_touches h.replays.touches h.stage.lawful hout hpage
  -- What is noted meanwhile does not matter.
  let noted (w : Workspace) : Workspace := { w with notes := w.notes ++
    (Page.ofFile b.host b.settings (b.options manifest) w.tree (child b.site rel)).2 }
  have hnoted : Abreast b base last.tree (noted w).tree (noted again).tree := h
  have hwritten : Confined base (Output b base) w₁ last := hahead
  obtain ⟨again₁, hagain, hnext⟩ := Abreast.place haside hnoted hwritten
    (touches_write_of (.page rel hfound htemplate rfl))
    (fun made _ _ hreplays hmade hlast => hreplays.write hmade hlast) hfile
  exact ⟨again₁.noted _, gives_compilePage_iff.2 ⟨page, hsame,
    gives_writePage_iff.2 ⟨again₁, hagain, rfl, rfl⟩⟩, hnext⟩

theorem Abreast.copyAsset {asset : Text} (hfound : Found b base rel)
    (hbundled : isBundled b.settings rel = false) (hgives : Gives (b.copyAsset rel) w asset w') :
    ∃ again', Gives (b.copyAsset rel) again asset again' ∧
      Abreast b base last.tree w'.tree again'.tree := by
  obtain ⟨w₁, hfile, rfl, hasset⟩ := gives_copyAsset_iff.1 hgives
  have hplace : Output b base (b.distPlace base rel) := .copy rel hfound hbundled rfl
  have hcopied : Confined base (Output b base) w₁ last := hahead
  obtain ⟨again₁, hagain, hnext⟩ := Abreast.place haside h hcopied (touches_copy_of hplace)
    (fun made hlawful hcwd hreplays hmade hlast => by
      refine hreplays.copy hlawful.cwd ?_ ?_ hmade hlast
      · rw [FileTree.resolve_congr hcwd]
        exact not_output_sitePlace haside.lawful hfound
      · rw [FileTree.resolve_congr hcwd]
        exact hplace) hfile
  exact ⟨again₁.noted _, gives_copyAsset_iff.2 ⟨again₁, hagain, rfl, hasset⟩, hnext⟩

end Step

/-! ## The passes of two builds -/

section Passes

variable (haside : Aside b base) (h : Abreast b base last.tree w.tree again.tree)
  (hfiles : ∀ rel ∈ files, Found b base rel) (hahead : Confined base (Output b base) w' last)

include haside h hfiles hahead

theorem Abreast.pages {pages : List (Text × Text)}
    (hgives : Gives ((files.filter (isTemplate b.settings)).mapM (b.compilePage manifest)) w pages
      w') :
    ∃ again', Gives ((files.filter (isTemplate b.settings)).mapM (b.compilePage manifest)) again
        pages again' ∧
      Abreast b base last.tree w'.tree again'.tree := by
  have hfound : ∀ rel ∈ files.filter (isTemplate b.settings), Found b base rel :=
    fun rel hrel => hfiles rel (List.mem_filter.1 hrel).1
  refine Gives.mapM_again (S := fun w again => Abreast b base last.tree w.tree again.tree)
    Confined.refl Confined.trans (fun rel hrel => ?_)
    (fun rel hrel _ _ _ _ hbefore hlater hstep => ?_) hgives hahead h
  · exact leaves_compilePage b manifest rel
      (.page rel (hfound rel hrel) (List.mem_filter.1 hrel).2 rfl)
  · exact hbefore.compilePage haside hlater (hfound rel hrel) (List.mem_filter.1 hrel).2 hstep

theorem Abreast.copies {assets : List Text}
    (hgives : Gives ((files.filter (¬ isBundled b.settings ·)).mapM b.copyAsset) w assets w') :
    ∃ again', Gives ((files.filter (¬ isBundled b.settings ·)).mapM b.copyAsset) again assets
        again' ∧
      Abreast b base last.tree w'.tree again'.tree := by
  have hfound : ∀ rel ∈ files.filter (¬ isBundled b.settings ·), Found b base rel :=
    fun rel hrel => hfiles rel (List.mem_filter.1 hrel).1
  have hother : ∀ rel ∈ files.filter (¬ isBundled b.settings ·),
      isBundled b.settings rel = false := fun rel hrel => by simpa using (List.mem_filter.1 hrel).2
  refine Gives.mapM_again (S := fun w again => Abreast b base last.tree w.tree again.tree)
    Confined.refl Confined.trans (fun rel hrel => ?_)
    (fun rel hrel _ _ _ _ hbefore hlater hstep => ?_) hgives hahead h
  · exact leaves_copyAsset b rel (.copy rel (hfound rel hrel) (hother rel hrel) rfl)
  · exact hbefore.copyAsset haside hlater (hfound rel hrel) (hother rel hrel) hstep

end Passes

/-! ## The manifest -/

/-- The names from the output directory to the manifest. -/
def manifestNames : List Text := [".vite".toList, "manifest.json".toList]

theorem proper_manifestNames : ∀ name ∈ manifestNames, Proper name := by decide

theorem ofSegments_manifestNames : ofSegments manifestNames = ".vite/manifest.json".toList := rfl

theorem pathIn_eq (dist : Text) :
    Manifest.pathIn dist = child dist (ofSegments manifestNames) := by
  rw [Manifest.pathIn, ofSegments_manifestNames]

/-- A build writes no manifest, unless the site has a file of that name. -/
theorem not_output_manifest (hlawful : base.Lawful)
    (hmanifest : ¬ Found b base ".vite/manifest.json".toList) :
    ¬ Output b base (base.resolve b.dist ++ manifestNames) := by
  have hplace : base.resolve b.dist ++ manifestNames =
      b.distPlace base (ofSegments manifestNames) :=
    (FileTree.resolve_child hlawful.cwd proper_manifestNames b.dist).symm
  have hdescends : Descends (ofSegments manifestNames) := ⟨_, rfl, proper_manifestNames⟩
  rw [hplace]
  intro hout
  cases hout with
  | page rel hfound htemplate hpage =>
      have hname := distPlace_injOn hlawful hdescends
        (descends_outputName (hfound.descends hlawful) htemplate) hpage
      have hlast := congrArg List.getLast? hname
      rw [outputName] at hlast
      simp [manifestNames, ofSegments, Text.join, List.intercalate] at hlast
  | copy rel hfound _ hcopy =>
      have hname := distPlace_injOn hlawful hdescends (hfound.descends hlawful) hcopy
      rw [ofSegments_manifestNames] at hname
      exact hmanifest (hname ▸ hfound)

/-! ## A whole build -/

/-- The steps of a build that succeeds. -/
structure Success (b : Build) (w : Workspace) (manifest : List (Text × Text)) (loaded : Entry)
    (pages : List (Text × Text)) (compiled : Workspace) (assets : List Text)
    (done : Workspace) : Prop where
  made : (w.tree.makeDirectories b.dist).2 = .ok ()
  loads : Manifest.load b.reader (b.prepared w.tree) b.dist = .ok (manifest, loaded)
  compiles : Gives ((b.templates (b.prepared w.tree)).mapM (b.compilePage manifest))
    (b.started w loaded) pages compiled
  copies : Gives ((b.copied compiled.tree).mapM b.copyAsset)
    (compiled.noted (.debug 1 "Copying static assets...")) assets done

/-- The last workspace of a build. -/
def finished (b : Build) (done : Workspace) : Workspace :=
  done.noted (.debug 1 ("Build complete! Output in: " ++ b.dist))

namespace Success

variable {loaded : Entry} {pages : List (Text × Text)} {compiled done : Workspace}
  {assets : List Text} (h : Success b w manifest loaded pages compiled assets done)
  (haside : Aside b w.tree)

include h haside

theorem prepared : Stage b w.tree (b.prepared w.tree) := stage_prepared haside.lawful h.made

/-- Midway and in the end, the same files are listed as at first. -/
theorem midway : Stage b w.tree compiled.tree ∧
    b.sourceFiles compiled.tree = b.sourceFiles (b.prepared w.tree) := by
  have hstart : Stage b w.tree (b.started w loaded).tree := h.prepared haside
  exact sourceFiles_of_templates haside hstart h.compiles

theorem atEnd : Stage b w.tree done.tree ∧
    b.sourceFiles done.tree = b.sourceFiles (b.prepared w.tree) := by
  have hstart : Stage b w.tree (compiled.noted (.debug 1 "Copying static assets...")).tree :=
    (h.midway haside).1
  obtain ⟨hdone, hsame⟩ := sourceFiles_of_copied haside hstart h.copies
  exact ⟨hdone, hsame.trans (h.midway haside).2⟩

theorem found_of_mem : (∀ rel ∈ b.sourceFiles (b.prepared w.tree), Found b w.tree rel) ∧
    ∀ rel ∈ b.sourceFiles compiled.tree, Found b w.tree rel :=
  ⟨fun _ hrel => (h.prepared haside).found haside hrel,
    fun _ hrel => (h.midway haside).1.found haside hrel⟩

theorem ahead : Confined w.tree (Output b w.tree) compiled done := by
  have hcopies := (leaves_copies (h.found_of_mem haside).2).gives h.copies
  exact hcopies

/-- Once the output directory is there, only output is written. -/
theorem touches : FileTree.Touches (Output b w.tree) (b.prepared w.tree) done.tree := by
  have hpages := (leaves_pages (h.found_of_mem haside).1 manifest).gives h.compiles
  have hstart := h.prepared haside
  exact Confined.trans _ _ _ hpages (h.ahead haside) hstart.lawful hstart.touches.cwd

theorem aside : Aside b done.tree := by
  obtain ⟨hdone, -⟩ := h.atEnd haside
  refine ⟨haside.bundler, hdone.lawful, ?_⟩
  rw [hdone.touches.resolve, hdone.touches.resolve]
  exact haside.apart

/-- A second build need not make the output directory. -/
theorem makeDirectories_again : done.tree.makeDirectories b.dist = (done.tree, .ok ()) := by
  have htouches := h.touches haside
  exact FileTree.makeDirectories_of_isDirectory <|
    htouches.isDirectory ((w.tree.touches_makeDirectories b.dist).2 h.made)

theorem prepared_again : b.prepared done.tree = done.tree :=
  congrArg Prod.fst (h.makeDirectories_again haside)

/-- A second build loads the same manifest. -/
theorem loads_again (hmanifest : ¬ Found b w.tree ".vite/manifest.json".toList) :
    ∃ loaded', Manifest.load b.reader (b.prepared done.tree) b.dist = .ok (manifest, loaded') := by
  have hprepared := h.prepared haside
  have hout : ¬ Output b w.tree ((b.prepared w.tree).resolve b.dist ++ manifestNames) := by
    rw [hprepared.touches.resolve]
    exact not_output_manifest haside.lawful hmanifest
  refine Manifest.load_congr (fun content => ?_) h.loads
  obtain ⟨l, hdist, -⟩ := FileTree.isDirectory_eq_true_iff.1
    ((w.tree.touches_makeDirectories b.dist).2 h.made)
  rw [h.prepared_again haside, pathIn_eq]
  exact (h.touches haside).read_child_iff hprepared.lawful proper_manifestNames hdist hout

/-- A second build lists the same files. -/
theorem sourceFiles_again :
    b.sourceFiles (b.prepared done.tree) = b.sourceFiles (b.prepared w.tree) := by
  rw [h.prepared_again haside]
  exact (h.atEnd haside).2

/-- A second build takes the same steps, and ends where the first one has ended. -/
theorem repeated (second : Workspace) (hsecond : second.tree = done.tree)
    (hmanifest : ¬ Found b w.tree ".vite/manifest.json".toList) :
    ∃ loaded' compiled' done', done'.tree = done.tree ∧
      Success b second manifest loaded' pages compiled' assets done' := by
  obtain ⟨loaded', hload⟩ := h.loads_again haside hmanifest
  obtain ⟨hfiles, hfiles'⟩ := h.found_of_mem haside
  have hmade := h.makeDirectories_again haside
  have hbegins : Abreast b w.tree done.tree (b.started w loaded).tree
      (b.started second loaded').tree := by
    refine ⟨h.prepared haside, ?_⟩
    change FileTree.Replays _ _ _ (b.prepared second.tree)
    rw [hsecond, h.prepared_again haside]
    exact .start (h.atEnd haside).1.lawful (h.touches haside)
  obtain ⟨compiled', hpages, hmidway⟩ := hbegins.pages haside hfiles (h.ahead haside) h.compiles
  have hcompiles : Gives ((b.templates (b.prepared second.tree)).mapM (b.compilePage manifest))
      (b.started second loaded') pages compiled' := by
    rw [hsecond, templates, h.sourceFiles_again haside]
    exact hpages
  have hmidway' : Abreast b w.tree done.tree
      (compiled.noted (.debug 1 "Copying static assets...")).tree
      (compiled'.noted (.debug 1 "Copying static assets...")).tree := hmidway
  obtain ⟨done', hassets, hend⟩ := hmidway'.copies haside hfiles' (Confined.refl done) h.copies
  -- The files that are copied are listed as the first time.
  have haside' : Aside b second.tree := hsecond ▸ h.aside haside
  have hstart : Stage b second.tree (b.started second loaded').tree :=
    stage_prepared haside'.lawful (by rw [hsecond, hmade])
  obtain ⟨-, hsame⟩ := sourceFiles_of_templates haside' hstart hcompiles
  have hlisted : b.sourceFiles compiled'.tree = b.sourceFiles compiled.tree := by
    rw [(h.midway haside).2, ← h.sourceFiles_again haside, ← hsecond]
    exact hsame
  refine ⟨loaded', compiled', done', hend.replays.eq_last, by rw [hsecond, hmade],
    hsecond ▸ hload, hcompiles, ?_⟩
  rw [copied, hlisted]
  exact hassets

end Success

end Build
end PageLoom
