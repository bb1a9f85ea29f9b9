import PageLoom.Proofs.Site.Visit

set_option autoImplicit false

/-! # The course of a build

A build that leaves the bundler out compiles the templates it finds, then copies the other files it
finds, each to a place of its own in the output directory. Both are a `Pass`: what one of its steps
has made is there until another step writes the same place, and its steps do not share places; so
when it is done all that it makes is there (`Pass.made_of_mapM`). A build that succeeds is one pass
after the other (`course_of_run`). -/

namespace PageLoom

open Stateful SitePath

namespace Build

variable {b : Build} {w w' : Workspace} {r : BuildReport} {manifest : List (Text × Text)}
  {base tree tree' : FileTree} {locations : Location → Prop} {rel rel' : Text}

/-! ## The course of a build -/

/-- A build that leaves the bundler out succeeds when the output directory can be made, the manifest
    can be loaded, every template compiles, and every other file can be copied. -/
theorem gives_run_iff (haside : Aside b w.tree) :
    Gives b.run w r w' ↔
      (w.tree.makeDirectories b.dist).2 = .ok () ∧
      ∃ manifest loaded,
        Manifest.load b.reader (b.prepared w.tree) b.dist = .ok (manifest, loaded) ∧
      ∃ pages compiled, Gives ((b.templates (b.prepared w.tree)).mapM (b.compilePage manifest))
        (b.started w loaded) pages compiled ∧
      ∃ assets done, Gives ((b.copied compiled.tree).mapM b.copyAsset)
        (compiled.noted (.debug 1 "Copying static assets...")) assets done ∧
      r = ⟨b.dist, pages, assets, manifest.length⟩ ∧
      w' = done.noted (.debug 1 ("Build complete! Output in: " ++ b.dist)) := by
  -- The files that are copied are listed the same before and after templates are compiled.
  have hcopied : ∀ {manifest loaded pages compiled},
      (w.tree.makeDirectories b.dist).2 = .ok () →
      Gives ((b.templates (b.prepared w.tree)).mapM (b.compilePage manifest)) (b.started w loaded)
        pages compiled → b.copied compiled.tree = b.copied (b.prepared w.tree) := by
    intro manifest loaded pages compiled hmade hpages
    have hstage : Stage b w.tree (b.started w loaded).tree := stage_prepared haside.lawful hmade
    exact congrArg (List.filter _) (sourceFiles_of_templates haside hstage hpages).2
  rw [Gives, outcome_run haside]
  change Gives (b.runOn _) w r w' ↔ _
  rw [runOn]
  simp only [gives_bind_iff, gives_note_iff, gives_loadManifest_iff, gives_pure_iff,
    gives_prepare_iff haside.bundler]
  constructor
  · rintro ⟨_, _, rfl, _, _, ⟨hmade, rfl⟩, manifest, _, ⟨loaded, hload, rfl⟩, _, _, rfl,
      pages, compiled, hpages, _, _, rfl, assets, done, hassets, _, _, rfl, rfl, rfl⟩
    refine ⟨hmade, manifest, loaded, hload, pages, compiled, hpages, assets, done, ?_, rfl, rfl⟩
    rw [hcopied hmade hpages]
    exact hassets
  · rintro ⟨hmade, manifest, loaded, hload, pages, compiled, hpages, assets, done, hassets, rfl,
      rfl⟩
    rw [hcopied hmade hpages] at hassets
    exact ⟨(), _, rfl, (), _, ⟨hmade, rfl⟩, manifest, _, ⟨loaded, hload, rfl⟩, (), _, rfl, pages,
      compiled, hpages, (), _, rfl, assets, done, hassets, (), _, rfl, rfl, rfl⟩

/-! ## Pages and copies that were made -/

/-- The page of a template was written. -/
def PageMade (b : Build) (manifest : List (Text × Text)) (tree : FileTree) (rel : Text) : Prop :=
  ∃ page,
    (Page.ofFile b.host b.settings (b.options manifest) tree (child b.site rel)).1 = .ok page ∧
    tree.find (child b.dist (outputName b.settings rel)) =
      .ok (some (.file (Utf8.encode page.html)))

/-- A file was copied. -/
def AssetMade (b : Build) (tree : FileTree) (rel : Text) : Prop :=
  ∃ content, tree.read (child b.site rel) = .ok content ∧
    tree.find (child b.dist rel) = .ok (some (.file content))

section Kept

variable (hlawful : tree.Lawful) (htouches : FileTree.Touches locations tree tree')
  (hsource : ¬ locations (b.sitePlace tree rel))

include hlawful htouches hsource

theorem PageMade.kept (hpage : ¬ locations (b.distPlace tree (outputName b.settings rel)))
    (h : PageMade b manifest tree rel) : PageMade b manifest tree' rel := by
  obtain ⟨page, hcompiled, hwritten⟩ := h
  exact ⟨page, Page.ofFile_of_touches htouches hlawful hsource hcompiled,
    htouches.find hlawful.cwd hpage hwritten⟩

theorem AssetMade.kept (hcopy : ¬ locations (b.distPlace tree rel)) (h : AssetMade b tree rel) :
    AssetMade b tree' rel := by
  obtain ⟨content, hread, hwritten⟩ := h
  exact ⟨content, htouches.read hlawful.cwd hsource hread,
    htouches.find hlawful.cwd hcopy hwritten⟩

end Kept

/-- A template that compiles has its page written. -/
theorem pageMade_of_compilePage {p : Text × Text} (hlawful : w.tree.Lawful)
    (hapart : b.sitePlace w.tree rel ≠ b.distPlace w.tree (outputName b.settings rel))
    (h : Gives (b.compilePage manifest rel) w p w') :
    p = (rel, outputName b.settings rel) ∧ PageMade b manifest w'.tree rel := by
  have hleaves : Leaves (Confined w.tree (· = b.distPlace w.tree (outputName b.settings rel)))
      (b.compilePage manifest rel) := leaves_compilePage b manifest rel rfl
  have htouches := hleaves.gives h hlawful rfl
  obtain ⟨page, hpage, hwrite⟩ := gives_compilePage_iff.1 h
  obtain ⟨w₁, hfile, rfl, rfl⟩ := gives_writePage_iff.1 hwrite
  exact ⟨rfl, page, Page.ofFile_of_touches htouches hlawful hapart hpage, hfile.writeFile⟩

theorem assetMade_of_copyAsset {asset : Text} (hlawful : w.tree.Lawful)
    (hapart : b.sitePlace w.tree rel ≠ b.distPlace w.tree rel)
    (h : Gives (b.copyAsset rel) w asset w') : asset = rel ∧ AssetMade b w'.tree rel := by
  obtain ⟨w₁, hfile, rfl, rfl⟩ := gives_copyAsset_iff.1 h
  exact ⟨rfl, hfile.copyFile hlawful hapart⟩

/-! ## The two passes -/

/-- A way to make one file of the output directory of each file of the site, with what is true of a
    tree once that is done. -/
structure Pass (b : Build) (β : Type) where
  /-- The path at which a file is made. -/
  target : Text → Text
  step : Text → Work β
  answer : Text → β
  Made : FileTree → Text → Prop
  leaves : ∀ (base : FileTree) (rel : Text),
    Leaves (Confined base (· = b.distPlace base (target rel))) (step rel)
  made : ∀ {rel : Text} {w w' : Workspace} {y : β}, w.tree.Lawful →
    b.sitePlace w.tree rel ≠ b.distPlace w.tree (target rel) → Gives (step rel) w y w' →
      y = answer rel ∧ Made w'.tree rel
  kept : ∀ {rel : Text} {locations : Location → Prop} {tree tree' : FileTree}, tree.Lawful →
    FileTree.Touches locations tree tree' → ¬ locations (b.sitePlace tree rel) →
      ¬ locations (b.distPlace tree (target rel)) → Made tree rel → Made tree' rel

/-- Compiling templates. -/
def pagePass (b : Build) (manifest : List (Text × Text)) : Pass b (Text × Text) where
  target := outputName b.settings
  step := b.compilePage manifest
  answer rel := (rel, outputName b.settings rel)
  Made := PageMade b manifest
  leaves _ rel := leaves_compilePage b manifest rel rfl
  made := pageMade_of_compilePage
  kept hlawful htouches hsource := PageMade.kept hlawful htouches hsource

/-- Copying files. -/
def copyPass (b : Build) : Pass b Text where
  target := id
  step := b.copyAsset
  answer := id
  Made := AssetMade b
  leaves _ rel := leaves_copyAsset b rel rfl
  made := assetMade_of_copyAsset
  kept hlawful htouches hsource := AssetMade.kept hlawful htouches hsource

namespace Pass

variable {β : Type} (pass : Pass b β) {rels : List Text} {y : β}

/-- Files of the site that a pass can go over: no two of them make the same file. -/
structure Suits (base : FileTree) (rels : List Text) : Prop where
  nodup : rels.Nodup
  found : ∀ rel ∈ rels, Found b base rel
  descends : ∀ rel ∈ rels, Descends (pass.target rel)
  target_injOn : ∀ rel ∈ rels, ∀ other ∈ rels, pass.target rel = pass.target other → rel = other

variable {pass}

/-- No file is made where a file of the site stands. -/
theorem Suits.apart (h : pass.Suits base rels) (hlawful : base.Lawful) (hrel : rel ∈ rels)
    (hrel' : rel' ∈ rels) : b.sitePlace base rel ≠ b.distPlace base (pass.target rel') := by
  intro heq
  exact not_below_sitePlace hlawful (h.found rel hrel)
    (heq ▸ below_distPlace hlawful (h.descends rel' hrel'))

theorem touches_of_step (hstage : Stage b base w.tree) (h : Gives (pass.step rel) w y w') :
    FileTree.Touches (· = b.distPlace base (pass.target rel)) w.tree w'.tree :=
  (pass.leaves base rel).gives h hstage.lawful hstage.touches.cwd

/-- A step makes its file and leads to the next stage. -/
theorem made_of_step (hsuits : pass.Suits base rels) (hlawful : base.Lawful) (hrel : rel ∈ rels)
    (hstage : Stage b base w.tree) (h : Gives (pass.step rel) w y w') :
    (pass.Made w'.tree rel ∧ pass.answer rel = y) ∧ Stage b base w'.tree := by
  have hapart : b.sitePlace w.tree rel ≠ b.distPlace w.tree (pass.target rel) := by
    rw [sitePlace, distPlace, hstage.touches.resolve, hstage.touches.resolve]
    exact hsuits.apart hlawful hrel hrel
  obtain ⟨rfl, hmade⟩ := pass.made hstage.lawful hapart h
  -- The step writes below the output directory, so the site is as it was.
  refine ⟨⟨hmade, rfl⟩, hstage.next (touches_of_step hstage h) fun l hl => ?_⟩
  rw [hl]
  exact below_distPlace hlawful (hsuits.descends rel hrel)

/-- A step leaves what other steps have made. -/
theorem kept_of_step (hsuits : pass.Suits base rels) (hlawful : base.Lawful) (hrel : rel ∈ rels)
    (hrel' : rel' ∈ rels) (hne : rel' ≠ rel) (hstage : Stage b base w.tree)
    (hmade : pass.Made w.tree rel) (h : Gives (pass.step rel') w y w') : pass.Made w'.tree rel := by
  refine pass.kept hstage.lawful (touches_of_step hstage h) ?_ ?_ hmade
  · rw [sitePlace, hstage.touches.resolve]
    exact hsuits.apart hlawful hrel hrel'
  · rw [distPlace, hstage.touches.resolve]
    exact fun heq => hne (hsuits.target_injOn rel hrel rel' hrel'
      (distPlace_injOn hlawful (hsuits.descends rel hrel) (hsuits.descends rel' hrel') heq)).symm

/-- When a pass is done, all that it makes is there, and nothing else has changed. -/
theorem made_of_mapM {made : List β} (hsuits : pass.Suits base rels) (hlawful : base.Lawful)
    (hstage : Stage b base w.tree) (h : Gives (rels.mapM pass.step) w made w') :
    FileTree.Touches (fun l => ∃ rel ∈ rels, l = b.distPlace base (pass.target rel))
        w.tree w'.tree ∧
      Stage b base w'.tree ∧ made = rels.map pass.answer ∧
      ∀ rel ∈ rels, pass.Made w'.tree rel := by
  have hleaves : Leaves (Confined base fun l =>
      ∃ rel ∈ rels, l = b.distPlace base (pass.target rel)) (rels.mapM pass.step) :=
    leaves_mapM Confined.refl Confined.trans fun rel hrel w hlawful hcwd =>
      (pass.leaves base rel w hlawful hcwd).mono fun l hl => ⟨rel, hrel, hl⟩
  have hdone : ∀ rel ∈ rels, ∀ (w : Workspace) (y : β) (w' : Workspace), Stage b base w.tree →
      Gives (pass.step rel) w y w' →
        (pass.Made w'.tree rel ∧ pass.answer rel = y) ∧ Stage b base w'.tree :=
    fun rel hrel w y w' hw hstep => made_of_step hsuits hlawful hrel hw hstep
  obtain ⟨hall, hlast⟩ :=
    Gives.mapM (P := fun rel y w => pass.Made w.tree rel ∧ pass.answer rel = y) hsuits.nodup hdone
      (fun rel hrel other hother hne y y' w w' hw hmade hstep =>
        ⟨kept_of_step hsuits hlawful hrel hother hne hw hmade.1 hstep, hmade.2⟩) h hstage
  -- The answers are those of the files in turn.
  obtain ⟨hmade, hanswers⟩ := (List.forall₂_and_left _ _).1 hall
  rw [← List.forall₂_map_left_iff, List.forall₂_eq_eq_eq] at hanswers
  exact ⟨hleaves.gives h hstage.lawful hstage.touches.cwd, hlast, hanswers.symm, hmade⟩

end Pass

theorem suits_templates (hplain : Plain b base) (hstage : Stage b base tree) :
    (b.pagePass manifest).Suits base (b.templates tree) := by
  have hfound : ∀ rel ∈ b.templates tree, Found b base rel :=
    fun rel hrel => hstage.found hplain.aside (List.mem_filter.1 hrel).1
  have hdescends : ∀ rel ∈ b.templates tree, Descends rel :=
    fun rel hrel => (hfound rel hrel).descends hplain.lawful
  have htemplate : ∀ rel ∈ b.templates tree, isTemplate b.settings rel = true :=
    fun rel hrel => (List.mem_filter.1 hrel).2
  refine ⟨(nodup_sourceFiles hstage.lawful b).filter _, hfound, fun rel hrel => ?_,
    fun rel hrel rel' hrel' => ?_⟩
  · exact descends_outputName (hdescends rel hrel) (htemplate rel hrel)
  · exact outputName_injOn hplain.extension (hdescends rel hrel) (hdescends rel' hrel')
      (htemplate rel hrel) (htemplate rel' hrel')

theorem suits_copied (hplain : Plain b base) (hstage : Stage b base tree) :
    b.copyPass.Suits base (b.copied tree) := by
  have hfound : ∀ rel ∈ b.copied tree, Found b base rel :=
    fun rel hrel => hstage.found hplain.aside (List.mem_filter.1 hrel).1
  exact ⟨(nodup_sourceFiles hstage.lawful b).filter _, hfound,
    fun rel hrel => (hfound rel hrel).descends hplain.lawful, fun _ _ _ _ heq => heq⟩

/-! ## A whole build -/

/-- What a build that succeeds has done at its stages. -/
structure Course (b : Build) (w : Workspace) (r : BuildReport) (after : FileTree)
    (manifest : List (Text × Text)) (loaded : Entry) (compiled : Workspace) : Prop where
  loads : Manifest.load b.reader (b.prepared w.tree) b.dist = .ok (manifest, loaded)
  mapped : r.mapped = manifest.length
  prepared : Stage b w.tree (b.prepared w.tree)
  compiling : Gives ((b.templates (b.prepared w.tree)).mapM (b.compilePage manifest))
    (b.started w loaded) r.pages compiled
  compiles : FileTree.Touches
    (fun l => ∃ rel ∈ b.templates (b.prepared w.tree),
      l = b.distPlace w.tree (outputName b.settings rel)) (b.prepared w.tree) compiled.tree
  pages : r.pages =
    (b.templates (b.prepared w.tree)).map fun rel => (rel, outputName b.settings rel)
  written : ∀ rel ∈ b.templates (b.prepared w.tree), PageMade b manifest compiled.tree rel
  midway : Stage b w.tree compiled.tree
  copies : FileTree.Touches (fun l => ∃ rel ∈ b.copied compiled.tree, l = b.distPlace w.tree rel)
    compiled.tree after
  assets : r.assets = b.copied compiled.tree
  copied : ∀ rel ∈ b.copied compiled.tree, AssetMade b after rel
  done : Stage b w.tree after

/-- A build that succeeds takes its course. -/
theorem course_of_run (hplain : Plain b w.tree) (h : Gives b.run w r w') :
    ∃ manifest loaded compiled, Course b w r w'.tree manifest loaded compiled := by
  obtain ⟨hmade, manifest, loaded, hload, pages, compiled, hpages, assets, done, hassets, rfl,
    rfl⟩ := (gives_run_iff hplain.aside).1 h
  have hprepared := stage_prepared hplain.lawful hmade
  have hfirst : Gives ((b.templates (b.prepared w.tree)).mapM (b.pagePass manifest).step)
      (b.started w loaded) pages compiled := hpages
  obtain ⟨hcompiles, hcompiled, hlisted, hwritten⟩ :=
    Pass.made_of_mapM (suits_templates hplain hprepared) hplain.lawful hprepared hfirst
  have hnoted : Stage b w.tree (compiled.noted (.debug 1 "Copying static assets...")).tree :=
    hcompiled
  have hsecond : Gives ((b.copied compiled.tree).mapM b.copyPass.step)
      (compiled.noted (.debug 1 "Copying static assets...")) assets done := hassets
  obtain ⟨hcopies, hdone, hassets, hcopied⟩ :=
    Pass.made_of_mapM (suits_copied hplain hcompiled) hplain.lawful hnoted hsecond
  exact ⟨manifest, loaded, compiled, hload, rfl, hprepared, hpages, hcompiles, hlisted,
    hwritten, hcompiled, hcopies, hassets.trans (List.map_id _), hcopied, hdone⟩

end Build
end PageLoom
