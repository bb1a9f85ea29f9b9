import PageLoom.Proofs.FileTree.Order
import PageLoom.Proofs.Site.Output
import PageLoom.Proofs.Site.Source

set_option autoImplicit false

/-! # Visiting a site while it is being built

A build reads the directories of the site while it writes the output. What it writes is below the
output directory, which it passes over, so at every `Stage` the directories it has still to read
hold the files they held at first, and a visit goes over the files that a listing made beforehand
has (`outcome_visit`). -/

namespace PageLoom
namespace Build

open Stateful SitePath

variable {b : Build} {base tree tree' : FileTree} {locations : Location → Prop} {l : Location}
  {names : List Text} {rel rel' : Text} {w w' : Workspace}

/-! ## Places -/

/-- Where a file of the site stands. -/
def sitePlace (b : Build) (base : FileTree) (rel : Text) : Location :=
  base.resolve (child b.site rel)

/-- Where a file of the output directory stands. -/
def distPlace (b : Build) (base : FileTree) (rel : Text) : Location :=
  base.resolve (child b.dist rel)

/-- How a build is looked at: the bundler is left out, templates have an ending, and the output
    directory is neither the site nor above it. -/
structure Plain (b : Build) (base : FileTree) : Prop where
  bundler : b.bundlerDir = none
  extension : b.settings.templateExtension ≠ []
  lawful : base.Lawful
  apart : ¬ base.resolve b.dist <+: base.resolve b.site

/-- A build that leaves the bundler out, to an output directory that is neither the site nor above
    it. -/
structure Aside (b : Build) (base : FileTree) : Prop where
  bundler : b.bundlerDir = none
  lawful : base.Lawful
  apart : ¬ base.resolve b.dist <+: base.resolve b.site

theorem Plain.aside (h : Plain b base) : Aside b base := ⟨h.bundler, h.lawful, h.apart⟩

/-- A file of the site is not below the output directory. -/
theorem not_below_sitePlace (hlawful : base.Lawful) (h : Found b base rel) :
    ¬ base.resolve b.dist <+: b.sitePlace base rel := by
  obtain ⟨names, rfl, hsource⟩ := h
  rw [sitePlace, FileTree.resolve_child hlawful.cwd (hsource.proper hlawful)]
  exact hsource.outside

theorem below_distPlace (hlawful : base.Lawful) (h : Descends rel) :
    base.resolve b.dist <+: b.distPlace base rel := by
  obtain ⟨names, rfl, hproper⟩ := h
  rw [distPlace, FileTree.resolve_child hlawful.cwd hproper]
  exact List.prefix_append ..

/-- Files of the output directory with different paths have different places. -/
theorem distPlace_injOn (hlawful : base.Lawful) (h : Descends rel) (h' : Descends rel')
    (heq : b.distPlace base rel = b.distPlace base rel') : rel = rel' := by
  obtain ⟨names, rfl, hproper⟩ := h
  obtain ⟨names', rfl, hproper'⟩ := h'
  rw [distPlace, distPlace, FileTree.resolve_child hlawful.cwd hproper,
    FileTree.resolve_child hlawful.cwd hproper'] at heq
  rw [List.append_cancel_left heq]

/-! ## Stages -/

/-- A tree that a build comes upon once the output directory is made. -/
structure Stage (b : Build) (base tree : FileTree) : Prop where
  lawful : tree.Lawful
  touches : FileTree.Touches (base.resolve b.dist <+: ·) base tree
  dist : tree.node? (base.resolve b.dist) = some .directory

namespace Stage

theorem next (h : Stage b base tree) (htouches : FileTree.Touches locations tree tree')
    (hbelow : ∀ l, locations l → base.resolve b.dist <+: l) : Stage b base tree' :=
  ⟨htouches.lawful h.lawful, h.touches.trans (htouches.mono hbelow),
    htouches.directories _ h.dist⟩

/-- Outside of the output directory, files stay files. -/
theorem isFile_iff (h : Stage b base tree) (hl : ¬ base.resolve b.dist <+: l) :
    (∃ content, tree.node? l = some (.file content)) ↔
      ∃ content, base.node? l = some (.file content) :=
  exists_congr fun content => h.touches.files l hl content

/-- At every stage the same files are visited. -/
theorem mem_sourceFiles_iff (h : Stage b base tree) (haside : Aside b base) :
    rel ∈ b.sourceFiles tree ↔ (∃ site, tree.locate b.site = .ok site) ∧ Found b base rel := by
  rw [Build.mem_sourceFiles_iff h.lawful]
  · exact and_congr_right fun _ => exists_congr fun names => and_congr_right fun _ =>
      isSource_iff_of_touches h.touches fun _ hl => hl
  · rw [h.touches.resolve]
    exact h.dist
  · rw [h.touches.resolve, h.touches.resolve]
    exact haside.apart

theorem found (h : Stage b base tree) (haside : Aside b base) (hrel : rel ∈ b.sourceFiles tree) :
    Found b base rel :=
  ((h.mem_sourceFiles_iff haside).1 hrel).2

/-- Below a directory that is not itself below the output directory, the same files are listed. -/
theorem listed_iff (h : Stage b base tree) (hsite : tree.locate b.site = .ok (base.resolve b.site))
    (houtside : ¬ base.resolve b.dist <+: base.resolve b.site ++ names) (below : List Text) :
    ((∃ content, tree.node? (base.resolve b.site ++ names ++ below) = some (.file content)) ∧
        FileTree.Passes (fun inner => b.enters tree (base.resolve b.site) (names ++ inner)) below) ↔
      ¬ base.resolve b.dist <+: base.resolve b.site ++ names ++ below ∧
        (∃ content, base.node? (base.resolve b.site ++ names ++ below) = some (.file content)) ∧
        ∀ inner rest, below = inner ++ rest → rest ≠ [] → base.Listable b.site (names ++ inner) := by
  have hdist : tree.node? (tree.resolve b.dist) = some .directory := by
    rw [h.touches.resolve]
    exact h.dist
  rw [← h.touches.resolve b.dist] at houtside
  constructor
  · rintro ⟨⟨content, hfile⟩, hpasses⟩
    obtain ⟨hbelow, hlistable⟩ := (passes_iff h.lawful hsite hdist houtside hfile).1 hpasses
    rw [h.touches.resolve] at hbelow
    exact ⟨hbelow, (h.isFile_iff hbelow).1 ⟨content, hfile⟩, fun inner rest heq hrest =>
      h.touches.listable_iff.1 (hlistable inner rest heq hrest)⟩
  · rintro ⟨hbelow, hbase, hlistable⟩
    obtain ⟨content, hfile⟩ := (h.isFile_iff hbelow).2 hbase
    rw [← h.touches.resolve b.dist] at hbelow
    exact ⟨⟨content, hfile⟩, (passes_iff h.lawful hsite hdist houtside hfile).2
      ⟨hbelow, fun inner rest heq hrest =>
        h.touches.listable_iff.2 (hlistable inner rest heq hrest)⟩⟩

end Stage

/-- Where the site is found, if it is found at all. -/
theorem Stage.site_eq (h : Stage b base tree) (hsite : tree.locate b.site = .ok l) :
    l = base.resolve b.site :=
  (FileTree.locate_eq_resolve h.lawful.cwd hsite).trans (h.touches.resolve _)

/-- The files that a listing has below some names from the site, by their paths from the site. -/
def listed (b : Build) (tree : FileTree) (site : Location) (fuel : ℕ) (names : List Text) :
    List Text :=
  (FileTree.filesBelow.go tree (fun inner => b.enters tree site (names ++ inner)) (site ++ names)
    fuel).map fun rest => ofSegments (names ++ rest)

theorem sourceFiles_eq_listed (hsite : tree.locate b.site = .ok l) :
    b.sourceFiles tree = b.listed tree l (tree.nodes.length + 1) [] := by
  rw [sourceFiles, hsite, listed, List.append_nil]
  rfl

theorem listed_of_not_enters {fuel : ℕ} (h : b.enters tree l names = false) :
    b.listed tree l fuel names = [] := by
  cases fuel with
  | zero => rfl
  | succ fuel => simp [listed, FileTree.filesBelow.go, h]

theorem listed_succ {fuel : ℕ} (h : b.enters tree l names = true) :
    b.listed tree l (fuel + 1) names =
      ((tree.filesIn (l ++ names)).map fun name => ofSegments (names ++ [name])) ++
        ((tree.directoriesIn (l ++ names)).filter fun name =>
          l ++ names ++ [name] ≠ tree.resolve b.dist).flatMap fun name =>
            b.listed tree l fuel (names ++ [name]) := by
  -- The output directory is not entered, so it makes no difference whether it is passed over.
  have hskip : ∀ directories : List Text,
      directories.flatMap (fun name => b.listed tree l fuel (names ++ [name])) =
        (directories.filter fun name => l ++ names ++ [name] ≠ tree.resolve b.dist).flatMap
          fun name => b.listed tree l fuel (names ++ [name]) := by
    intro directories
    induction directories with
    | nil => rfl
    | cons name rest ih =>
        by_cases hdist : l ++ names ++ [name] = tree.resolve b.dist
        · have hleft : b.enters tree l (names ++ [name]) = false := by
            rw [← Bool.not_eq_true, enters_iff, ← List.append_assoc]
            simp [hdist]
          rw [List.flatMap_cons, ih, listed_of_not_enters hleft,
            List.filter_cons_of_neg (by simpa using hdist), List.nil_append]
        · rw [List.flatMap_cons, ih, List.filter_cons_of_pos (by simpa using hdist),
            List.flatMap_cons]
  rw [← hskip]
  simp [listed, FileTree.filesBelow.go, h, List.map_flatMap, Function.comp_def]

namespace Stage

/-- At all stages at which the site can be found, the same files are listed in the same order. -/
theorem listed_eq (h : Stage b base tree) (h' : Stage b base tree')
    (hsite : tree.locate b.site = .ok (base.resolve b.site))
    (hsite' : tree'.locate b.site = .ok (base.resolve b.site))
    (houtside : ¬ base.resolve b.dist <+: base.resolve b.site ++ names) (fuel : ℕ) :
    b.listed tree (base.resolve b.site) fuel names =
      b.listed tree' (base.resolve b.site) fuel names := by
  refine congrArg (List.map _) (FileTree.go_congr h.lawful h'.lawful fun below => ?_)
  rw [FileTree.mem_go_iff h.lawful, FileTree.mem_go_iff h'.lawful, h.listed_iff hsite houtside,
    h'.listed_iff hsite' houtside]

/-- Below the site itself, the files of the site are listed. -/
theorem mem_filesBelow_iff (h : Stage b base tree) (haside : Aside b base)
    (hsite : tree.locate b.site = .ok (base.resolve b.site)) :
    names ∈ tree.filesBelow (b.enters tree (base.resolve b.site)) (base.resolve b.site) ↔
      IsSource b base names := by
  have houtside : ¬ base.resolve b.dist <+: base.resolve b.site ++ [] := by
    rw [List.append_nil]
    exact haside.apart
  have hlisted := h.listed_iff hsite houtside names
  rw [List.append_nil] at hlisted
  rw [FileTree.mem_filesBelow_iff h.lawful]
  constructor
  · rintro ⟨hne, hfile⟩
    obtain ⟨hapart, hbase, hlistable⟩ := hlisted.1 hfile
    exact ⟨hne, hbase, hapart, hlistable⟩
  · rintro ⟨hne, hbase, hapart, hlistable⟩
    exact ⟨hne, hlisted.2 ⟨hapart, hbase, hlistable⟩⟩

theorem sourceFiles_eq (h : Stage b base tree) (h' : Stage b base tree') (haside : Aside b base)
    (hsite : tree.locate b.site = .ok (base.resolve b.site))
    (hsite' : tree'.locate b.site = .ok (base.resolve b.site)) :
    b.sourceFiles tree = b.sourceFiles tree' := by
  rw [sourceFiles, sourceFiles, hsite, hsite']
  refine congrArg (List.map _) (FileTree.filesBelow_congr h.lawful h'.lawful fun names => ?_)
  rw [h.mem_filesBelow_iff haside hsite, h'.mem_filesBelow_iff haside hsite']

/-- What is listed below names that a walk has come to is a file of the site. -/
theorem found_of_listed (h : Stage b base tree)
    (hsite : tree.locate b.site = .ok (base.resolve b.site))
    (houtside : ¬ base.resolve b.dist <+: base.resolve b.site ++ names)
    (hway : ∀ inner rest, names = inner ++ rest → rest ≠ [] → base.Listable b.site inner)
    {fuel : ℕ} (hrel : rel ∈ b.listed tree (base.resolve b.site) fuel names) :
    Found b base rel := by
  obtain ⟨below, hbelow, rfl⟩ := List.mem_map.1 hrel
  obtain ⟨hne, -, hfile⟩ := (FileTree.mem_go_iff h.lawful).1 hbelow
  obtain ⟨hapart, hbase, hlistable⟩ := (h.listed_iff hsite houtside _).1 hfile
  rw [List.append_assoc] at hapart hbase
  refine ⟨names ++ below, rfl, by simp [hne], hbase, hapart, fun inner rest heq hrest => ?_⟩
  -- A directory above the file is one that the walk has come through, or below the last of those.
  rcases List.append_eq_append_iff.1 heq with ⟨more, rfl, hmore⟩ | ⟨more, hmore, rfl⟩
  · exact hlistable more rest hmore hrest
  · by_cases hnil : more = []
    · rw [hnil, List.append_nil] at hmore
      rw [← hmore, ← List.append_nil names]
      exact hlistable [] below rfl hne
    · exact hway inner more hmore hnil

end Stage

/-- The tree with the output directory. -/
def prepared (b : Build) (tree : FileTree) : FileTree := (tree.makeDirectories b.dist).1

theorem stage_prepared (hlawful : base.Lawful) (hmade : (base.makeDirectories b.dist).2 = .ok ()) :
    Stage b base (b.prepared base) := by
  obtain ⟨htouches, hdirectory⟩ := base.touches_makeDirectories b.dist
  refine ⟨htouches.lawful hlawful, htouches.mono fun _ => False.elim, ?_⟩
  obtain ⟨l, hlocate, hthere⟩ := FileTree.isDirectory_eq_true_iff.1 (hdirectory hmade)
  rwa [FileTree.locate_eq_resolve (htouches.lawful hlawful).cwd hlocate, htouches.resolve]
    at hthere

/-! ## Visits -/

/-- What writes below the output directory leads from stage to stage, and the site stays where it
    is. -/
theorem keeps_stage {β : Type} {x : Work β}
    (h : Leaves (Confined base (base.resolve b.dist <+: ·)) x) :
    Keeps (fun w => Stage b base w.tree ∧ w.tree.locate b.site = .ok l) x := by
  rintro w ⟨hstage, hsite⟩
  have htouches := h w hstage.lawful hstage.touches.cwd
  exact ⟨hstage.next htouches fun _ hl => hl, htouches.locate hsite⟩

/-- What is on the way to a directory in a directory that can be listed can be listed too. -/
theorem listable_of_concat {name : Text}
    (hway : ∀ inner rest, names = inner ++ rest → rest ≠ [] → base.Listable b.site inner)
    (hlistable : base.Listable b.site names) :
    ∀ inner rest, names ++ [name] = inner ++ rest → rest ≠ [] → base.Listable b.site inner := by
  intro inner rest heq hrest
  rcases List.eq_nil_or_concat rest with rfl | ⟨more, last, rfl⟩
  · exact absurd rfl hrest
  rw [List.concat_eq_append, ← List.append_assoc] at heq
  obtain ⟨rfl, -⟩ := List.append_inj' heq rfl
  by_cases hmore : more = []
  · rwa [hmore, List.append_nil] at hlistable
  · exact hway inner more rfl hmore

section Visit

variable {β : Type} {keep : Text → Bool} {step : Text → Work β}
  (hstep : ∀ rel, Found b base rel → keep rel = true →
    Leaves (Confined base (base.resolve b.dist <+: ·)) (step rel))

include hstep

theorem leaves_mapM_below {rels : List Text} (hrels : ∀ rel ∈ rels, Found b base rel) :
    Leaves (Confined base (base.resolve b.dist <+: ·)) ((rels.filter keep).mapM step) :=
  leaves_mapM Confined.refl Confined.trans fun rel hrel =>
    hstep rel (hrels rel (List.mem_filter.1 hrel).1) (List.mem_filter.1 hrel).2

theorem outcome_visit_go {fuel : ℕ} (hstage : Stage b base w.tree)
    (hsite : w.tree.locate b.site = .ok (base.resolve b.site))
    (houtside : ¬ base.resolve b.dist <+: base.resolve b.site ++ names)
    (hway : ∀ inner rest, names = inner ++ rest → rest ≠ [] → base.Listable b.site inner) :
    outcome (visit.go b keep step (base.resolve b.site) (base.resolve b.dist) fuel names) w =
      outcome (((b.listed w.tree (base.resolve b.site) fuel names).filter keep).mapM step) w := by
  induction fuel generalizing names w with
  | zero => rfl
  | succ fuel ih =>
      have hfound : ∀ rel ∈ b.listed w.tree (base.resolve b.site) (fuel + 1) names,
          Found b base rel := fun rel => hstage.found_of_listed hsite houtside hway
      rw [visit.go, outcome_bind, outcome_get]
      dsimp only
      cases hlisted : w.tree.isListed (child b.site (ofSegments names)) with
      | false =>
          have hleft : b.enters w.tree (base.resolve b.site) names = false := by
            rw [enters, hlisted, Bool.false_and]
          rw [listed_of_not_enters hleft]
          rfl
      | true =>
          have hentered : b.enters w.tree (base.resolve b.site) names = true := by
            refine enters_iff.2 ⟨hlisted, .inr fun heq => ?_⟩
            rw [hstage.touches.resolve] at heq
            exact houtside (heq ▸ List.prefix_rfl)
          rw [listed_succ hentered, hstage.touches.resolve] at hfound ⊢
          rw [if_neg (by simp), List.filter_append, List.filter_flatMap, List.mapM_append,
            mapM_flatMap]
          simp only [bind_assoc, pure_bind]
          refine outcome_bind_congr rfl fun own w₁ hown => ?_
          have hnext := (keeps_stage (leaves_mapM_below hstep fun rel hrel =>
            hfound rel (List.mem_append_left _ hrel))).gives hown ⟨hstage, hsite⟩
          -- The directories were read before their turn came, and are listed then as they were.
          refine outcome_bind_congr (outcome_mapM_congr
            (I := fun w => Stage b base w.tree ∧ w.tree.locate b.site = .ok (base.resolve b.site))
            (fun name hname => ?_) (fun name hname w₂ hlater => ?_) hnext) fun _ _ _ => rfl
          · exact keeps_stage (leaves_mapM_below hstep fun rel hrel =>
              hfound rel (List.mem_append_right _ (List.mem_flatMap.2 ⟨name, hname, hrel⟩)))
          · obtain ⟨hdirectory, hname⟩ := List.mem_filter.1 hname
            have hinner : ¬ base.resolve b.dist <+: base.resolve b.site ++ (names ++ [name]) := by
              intro hbelow
              rw [← List.append_assoc, List.prefix_concat_iff] at hbelow
              rcases hbelow with heq | hbelow
              · exact of_decide_eq_true hname heq.symm
              · exact houtside hbelow
            -- There is a directory in this one, which was thus a directory that could be listed.
            have habove := hstage.lawful.above_node (List.cons_ne_nil name [])
              ((FileTree.mem_directoriesIn_iff hstage.lawful).1 hdirectory)
            have hlistable := hstage.touches.listable_iff.1
              ((hstage.lawful.isListed_child_iff hsite habove).1 hlisted)
            rw [ih hlater.1 hlater.2 hinner (listable_of_concat hway hlistable),
              hlater.1.listed_eq hstage hlater.2 hsite hinner]

/-- **Reading a directory when its turn comes makes no difference.** A visit goes over the files
    that are listed when it begins, whatever its steps write below the output directory. -/
theorem outcome_visit (haside : Aside b base) (hstage : Stage b base w.tree) :
    outcome (b.visit keep step) w =
      outcome (((b.sourceFiles w.tree).filter keep).mapM step) w := by
  rw [visit, outcome_bind, outcome_get]
  cases hsite : w.tree.locate b.site with
  | error fault =>
      simp only [sourceFiles, hsite]
      rfl
  | ok site =>
      obtain rfl := hstage.site_eq hsite
      have houtside : ¬ base.resolve b.dist <+: base.resolve b.site ++ [] := by
        rw [List.append_nil]
        exact haside.apart
      rw [sourceFiles_eq_listed hsite]
      simp only [hsite, hstage.touches.resolve]
      exact outcome_visit_go hstep hstage hsite houtside (by simp)

/-- After a visit, the files of the site are listed as before. -/
theorem sourceFiles_of_gives {ys : List β} (haside : Aside b base) (hstage : Stage b base w.tree)
    (h : Gives (((b.sourceFiles w.tree).filter keep).mapM step) w ys w') :
    Stage b base w'.tree ∧ b.sourceFiles w'.tree = b.sourceFiles w.tree := by
  have hleaves := leaves_mapM_below hstep fun rel hrel => hstage.found haside hrel
  have htouches := hleaves.gives h hstage.lawful hstage.touches.cwd
  have hstage' := hstage.next htouches fun _ hl => hl
  refine ⟨hstage', ?_⟩
  cases hsite : w.tree.locate b.site with
  | ok site =>
      obtain rfl := hstage.site_eq hsite
      exact hstage'.sourceFiles_eq hstage haside (htouches.locate hsite) hsite
  | error fault =>
      -- Without a site nothing is visited, and nothing has changed.
      have hnone : b.sourceFiles w.tree = [] := by rw [sourceFiles, hsite]
      rw [hnone] at h
      obtain ⟨-, rfl⟩ := gives_pure_iff.1 h
      rfl

end Visit

/-- The templates among the files of a site. -/
def templates (b : Build) (tree : FileTree) : List Text :=
  (b.sourceFiles tree).filter (isTemplate b.settings)

/-- The files of a site that are copied. -/
def copied (b : Build) (tree : FileTree) : List Text :=
  (b.sourceFiles tree).filter (¬ isBundled b.settings ·)

/-! ## The two visits of a build -/

variable {manifest : List (Text × Text)}

theorem leaves_compilePage_below (hlawful : base.Lawful) (rel : Text)
    (hfound : Found b base rel) (htemplate : isTemplate b.settings rel = true) :
    Leaves (Confined base (base.resolve b.dist <+: ·)) (b.compilePage manifest rel) :=
  leaves_compilePage b manifest rel <|
    below_distPlace hlawful (descends_outputName (hfound.descends hlawful) htemplate)

theorem leaves_copyAsset_below (hlawful : base.Lawful) (rel : Text) (hfound : Found b base rel) :
    Leaves (Confined base (base.resolve b.dist <+: ·)) (b.copyAsset rel) :=
  leaves_copyAsset b rel (below_distPlace hlawful (hfound.descends hlawful))

theorem sourceFiles_of_templates {pages : List (Text × Text)} (haside : Aside b base)
    (hstage : Stage b base w.tree)
    (h : Gives ((b.templates w.tree).mapM (b.compilePage manifest)) w pages w') :
    Stage b base w'.tree ∧ b.sourceFiles w'.tree = b.sourceFiles w.tree :=
  sourceFiles_of_gives (leaves_compilePage_below haside.lawful) haside hstage h

theorem sourceFiles_of_copied {assets : List Text} (haside : Aside b base)
    (hstage : Stage b base w.tree) (h : Gives ((b.copied w.tree).mapM b.copyAsset) w assets w') :
    Stage b base w'.tree ∧ b.sourceFiles w'.tree = b.sourceFiles w.tree :=
  sourceFiles_of_gives (fun rel hfound _ => leaves_copyAsset_below haside.lawful rel hfound) haside
    hstage h

/-- A build that goes over files listed beforehand. -/
def runOn (b : Build) (files : List Text) : Work BuildReport := do
  Work.note (.debug 1 ("Building site " ++ b.site ++ " → " ++ b.dist))
  b.prepare
  let manifest ← b.loadManifest
  Work.note (.debug 1 ("Compiling " ++ b.settings.templateExtension ++ " files..."))
  let pages ← (files.filter (isTemplate b.settings)).mapM (b.compilePage manifest)
  Work.note (.debug 1 "Copying static assets...")
  let assets ← (files.filter (¬ isBundled b.settings ·)).mapM b.copyAsset
  Work.note (.debug 1 ("Build complete! Output in: " ++ b.dist))
  return ⟨b.dist, pages, assets, manifest.length⟩

theorem gives_prepare_iff (hbundler : b.bundlerDir = none) {u : Unit} :
    Gives b.prepare w u w' ↔ (w.tree.makeDirectories b.dist).2 = .ok () ∧
      w' = { w with tree := b.prepared w.tree } := by
  rw [prepare, hbundler]
  exact gives_makeDirectories_iff

theorem gives_loadManifest_iff :
    Gives b.loadManifest w manifest w' ↔
      ∃ e, Manifest.load b.reader w.tree b.dist = .ok (manifest, e) ∧ w' = w.noted e := by
  rw [loadManifest, gives_bind_iff]
  simp only [gives_get_iff]
  constructor
  · rintro ⟨_, _, ⟨rfl, rfl⟩, h⟩
    split at h
    next mapping e hload =>
      rw [gives_bind_iff] at h
      obtain ⟨_, _, hnote, hend⟩ := h
      rw [gives_note_iff] at hnote
      rw [gives_pure_iff] at hend
      obtain ⟨rfl, rfl⟩ := hend
      exact ⟨e, hload, hnote⟩
    next => exact absurd h not_gives_throw
  · rintro ⟨e, hload, rfl⟩
    refine ⟨w, w, ⟨rfl, rfl⟩, ?_⟩
    rw [hload]
    exact gives_bind_iff.2 ⟨(), _, gives_note_iff.2 rfl, gives_pure_iff.2 ⟨rfl, rfl⟩⟩

/-- The workspace when the first template is compiled. -/
def started (b : Build) (w : Workspace) (loaded : Entry) : Workspace :=
  let made : Workspace :=
    { w.noted (.debug 1 ("Building site " ++ b.site ++ " → " ++ b.dist)) with
      tree := b.prepared w.tree }
  (made.noted loaded).noted (.debug 1 ("Compiling " ++ b.settings.templateExtension ++ " files..."))

/-- **A build goes over the files that the site holds at first.** Whether it succeeds or fails, it
    is the same as one that lists them when the output directory is there and then never looks
    again. -/
theorem outcome_run (haside : Aside b w.tree) :
    outcome b.run w = outcome (b.runOn (b.sourceFiles (b.prepared w.tree))) w := by
  unfold run runOn
  refine outcome_bind_congr rfl fun _ w₁ h₁ => outcome_bind_congr rfl fun _ w₂ h₂ =>
    outcome_bind_congr rfl fun manifest w₃ h₃ => outcome_bind_congr rfl fun _ w₄ h₄ => ?_
  obtain rfl := gives_note_iff.1 h₁
  obtain ⟨hmade, rfl⟩ := (gives_prepare_iff haside.bundler).1 h₂
  obtain ⟨loaded, -, rfl⟩ := gives_loadManifest_iff.1 h₃
  obtain rfl : w₄ = b.started w loaded := gives_note_iff.1 h₄
  have hstage : Stage b w.tree (b.started w loaded).tree := stage_prepared haside.lawful hmade
  refine outcome_bind_congr (outcome_visit (leaves_compilePage_below haside.lawful) haside hstage)
    fun pages compiled hpages => outcome_bind_congr rfl fun _ w₆ h₆ => ?_
  obtain rfl := gives_note_iff.1 h₆
  obtain ⟨hcompiled, hsame⟩ := sourceFiles_of_templates haside hstage hpages
  have hnoted : Stage b w.tree (compiled.noted (.debug 1 "Copying static assets...")).tree :=
    hcompiled
  refine outcome_bind_congr ((outcome_visit (fun rel hfound _ =>
    leaves_copyAsset_below haside.lawful rel hfound) haside hnoted).trans ?_) fun _ _ _ => rfl
  exact congrArg (fun files => outcome ((files.filter (¬ isBundled b.settings ·)).mapM b.copyAsset)
    (compiled.noted (.debug 1 "Copying static assets..."))) hsame

end Build
end PageLoom
