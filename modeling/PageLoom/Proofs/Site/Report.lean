import PageLoom.Proofs.Site.Course

set_option autoImplicit false

/-! # What the report of a build is worth

The report lists the pages and the copies in the order in which they were made. Copies come last, so
each of them is there as it was made, and a page is there unless a copy goes by its name
(`faithful_of_run`). Which files are listed, and under what, is a matter of their endings alone
(`accounted_of_run`). -/

namespace PageLoom
namespace Build

open Stateful SitePath

variable {b : Build} {w w' compiled : Workspace} {r : BuildReport} {after : FileTree}
  {manifest : List (Text × Text)} {loaded : Entry} {names : List Text}

/-! ## What is there -/

/-- What a report says is so in the tree after the build: a page that no copy has replaced is that
    of its template, and a copy has the content of its file. -/
structure Faithful (b : Build) (manifest : List (Text × Text)) (after : FileTree)
    (r : BuildReport) : Prop where
  pages : ∀ p ∈ r.pages, p.2 ∉ r.assets →
    ∃ page,
      (Page.ofFile b.host b.settings (b.options manifest) after (child b.site p.1)).1 = .ok page ∧
      after.find (child b.dist p.2) = .ok (some (.file (Utf8.encode page.html)))
  assets : ∀ rel ∈ r.assets, ∃ content, after.read (child b.site rel) = .ok content ∧
    after.find (child b.dist rel) = .ok (some (.file content))

theorem Course.faithful (h : Course b w r after manifest loaded compiled)
    (hplain : Plain b w.tree) : Faithful b manifest after r where
  pages p hp hfree := by
    rw [h.pages, List.mem_map] at hp
    obtain ⟨rel, hrel, rfl⟩ := hp
    obtain ⟨hvisited, htemplate⟩ := List.mem_filter.1 hrel
    have hlawful := hplain.lawful
    have hfound := h.prepared.found hplain.aside hvisited
    have hcopy : ∀ other ∈ b.copied compiled.tree, Found b w.tree other :=
      fun other hother => h.midway.found hplain.aside (List.mem_filter.1 hother).1
    -- The page was there before the copies, and no copy is made in its place.
    refine (h.written rel hrel).kept h.midway.lawful h.copies ?_ ?_
    · rintro ⟨other, hother, heq⟩
      rw [sitePlace, h.midway.touches.resolve] at heq
      refine not_below_sitePlace hlawful hfound ?_
      rw [sitePlace, heq]
      exact below_distPlace hlawful ((hcopy other hother).descends hlawful)
    · rintro ⟨other, hother, heq⟩
      rw [distPlace, h.midway.touches.resolve] at heq
      have hsame := distPlace_injOn hlawful
        (descends_outputName (hfound.descends hlawful) htemplate)
        ((hcopy other hother).descends hlawful) heq
      exact hfree (h.assets ▸ hsame ▸ hother)
  assets rel hrel := h.copied rel (h.assets ▸ hrel)

/-- **The report of a build is true of the output directory, but for pages that a copy replaces.**
    A page that is listed, and whose name no copy has, holds what its template compiles to with the
    manifest that was loaded; a copy that is listed holds the octets of its file. Outside of the
    output directory no file has changed. -/
theorem faithful_of_run (hplain : Plain b w.tree) (h : Gives b.run w r w') :
    ∃ manifest loaded, Manifest.load b.reader (b.prepared w.tree) b.dist = .ok (manifest, loaded) ∧
      r.mapped = manifest.length ∧
      FileTree.Touches (w.tree.resolve b.dist <+: ·) w.tree w'.tree ∧
      Faithful b manifest w'.tree r := by
  obtain ⟨manifest, loaded, compiled, hcourse⟩ := course_of_run hplain h
  exact ⟨manifest, loaded, hcourse.loads, hcourse.mapped, hcourse.done.touches,
    hcourse.faithful hplain⟩

/-- A host for sites without scripts: its engine takes every text for its own result. -/
def idleHost : EngineHost where
  State := Unit
  engine := ⟨fun _ s => (⟨.ok (), .none⟩, s), fun code s => (⟨.ok code, .none⟩, s)⟩
  start _ _ := ()

/-- A build of the site in `site`, with the default settings. No manifest has entries. -/
def siteBuild : Build := ⟨idleHost, fun _ => .ok [], {}, "site", "dist", none⟩

/-- A workspace that holds some nodes below the working directory. -/
def workspaceOf (nodes : List (Location × FileNode)) : Workspace :=
  ⟨{ nodes, cwd := [] }, ⟨true, [], []⟩, [], []⟩

/-- A site with a page and a picture. -/
def pictureSite : Workspace := workspaceOf
  [(["site".toList], .directory),
   (["site".toList, "index.vyu".toList], .file (Utf8.encode "page".toList)),
   (["site".toList, "img".toList], .directory),
   (["site".toList, "img".toList, "logo.svg".toList], .file (Utf8.encode "<svg/>".toList))]

def pictureReport : BuildReport where
  dist := "dist"
  pages := [("index.vyu".toList, "index.html".toList)]
  assets := ["img/logo.svg".toList]
  mapped := 0

theorem plain_pictureSite : Plain siteBuild pictureSite.tree :=
  ⟨rfl, by decide, by decide +kernel, by decide +kernel⟩

theorem gives_pictureSite :
    Gives siteBuild.run pictureSite pictureReport (outcome siteBuild.run pictureSite).2 :=
  gives_of_outcome (by decide +kernel)

theorem faithful_pictureSite : ∃ w', Gives siteBuild.run pictureSite pictureReport w' ∧
    ∃ manifest loaded,
      Manifest.load siteBuild.reader (siteBuild.prepared pictureSite.tree) siteBuild.dist =
          .ok (manifest, loaded) ∧
      pictureReport.mapped = manifest.length ∧
      FileTree.Touches (pictureSite.tree.resolve siteBuild.dist <+: ·) pictureSite.tree w'.tree ∧
      Faithful siteBuild manifest w'.tree pictureReport :=
  ⟨_, gives_pictureSite, faithful_of_run plain_pictureSite gives_pictureSite⟩

/-- A site with a template, and a file that has the name of the template's page. -/
def twofoldSite : Workspace := workspaceOf
  [(["site".toList], .directory),
   (["site".toList, "a.html".toList], .file (Utf8.encode "static".toList)),
   (["site".toList, "a.vyu".toList], .file (Utf8.encode "page".toList))]

/-- The note about the manifest that `twofoldSite` does not have. -/
def noManifest : Entry := .warning ("Warning: Could not read bundler manifest: " ++
  "failed to read manifest: [Errno 2] No such file or directory: 'dist/.vite/manifest.json'")

/-- The workspace when the template of `twofoldSite` is compiled. -/
def twofoldCompiled : Workspace :=
  (outcome (["a.vyu".toList].mapM (siteBuild.compilePage []))
    (siteBuild.started twofoldSite noManifest)).2

/-- The workspace when the other file of `twofoldSite` is copied. -/
def twofoldCopied : Workspace :=
  (outcome (["a.html".toList].mapM siteBuild.copyAsset)
    (twofoldCompiled.noted (.debug 1 "Copying static assets..."))).2

/-- The report of the build of `twofoldSite` lists a page that the copy has replaced. -/
theorem replaced_twofoldSite : Plain siteBuild twofoldSite.tree ∧ siteBuild.settings = {} ∧
    ∃ w' page, Gives siteBuild.run twofoldSite
        ⟨"dist", [("a.vyu".toList, "a.html".toList)], ["a.html".toList], 0⟩ w' ∧
      (Page.ofFile siteBuild.host siteBuild.settings (siteBuild.options []) w'.tree
        (child siteBuild.site "a.vyu")).1 = .ok page ∧
      w'.tree.find (child siteBuild.dist "a.html") ≠
        .ok (some (.file (Utf8.encode page.html))) := by
  -- Both names are stored in order, so both listings of the site are known.
  have hfiles : ∀ tree : FileTree,
      tree.locate siteBuild.site = .ok ["site".toList] →
      tree.isListed (child siteBuild.site []) = true → tree.directoriesIn ["site".toList] = [] →
      tree.nodes.filterMap (FileTree.fileNameIn? ["site".toList]) =
        ["a.html".toList, "a.vyu".toList] →
      siteBuild.sourceFiles tree = ["a.html".toList, "a.vyu".toList] :=
    fun tree hsite hlisted hflat hstored =>
      sourceFiles_of_flat hsite hlisted hflat (FileTree.filesIn_of_pairwise hstored (by decide))
  have htemplates : siteBuild.templates (siteBuild.prepared twofoldSite.tree) =
      ["a.vyu".toList] := by
    rw [templates, hfiles _ (by decide +kernel) (by decide +kernel) (by decide +kernel)
      (by decide +kernel)]
    decide +kernel
  have hcopied : siteBuild.copied twofoldCompiled.tree = ["a.html".toList] := by
    rw [copied, hfiles _ (by decide +kernel) (by decide +kernel) (by decide +kernel)
      (by decide +kernel)]
    decide +kernel
  have hpages : Gives (["a.vyu".toList].mapM (siteBuild.compilePage []))
      (siteBuild.started twofoldSite noManifest) [("a.vyu".toList, "a.html".toList)]
      twofoldCompiled := gives_of_outcome (by decide +kernel)
  have hassets : Gives (["a.html".toList].mapM siteBuild.copyAsset)
      (twofoldCompiled.noted (.debug 1 "Copying static assets...")) ["a.html".toList]
      twofoldCopied := gives_of_outcome (by decide +kernel)
  rw [← htemplates] at hpages
  rw [← hcopied] at hassets
  have hplain : Plain siteBuild twofoldSite.tree :=
    ⟨rfl, by decide, by decide +kernel, by decide +kernel⟩
  refine ⟨hplain, rfl, _, ⟨"page", [], []⟩,
    (gives_run_iff hplain.aside).2 ⟨by decide +kernel, [], noManifest, by decide +kernel, _, _,
      hpages, _, _, hassets, by rw [hcopied]; rfl, rfl⟩, ?_, ?_⟩
  · decide +kernel
  · decide +kernel

/-! ## What is listed -/

theorem count_filter_of_mem {α : Type} [BEq α] [LawfulBEq α] {xs : List α} {x : α}
    (hnodup : xs.Nodup) (hmem : x ∈ xs) (p : α → Bool) :
    (xs.filter p).count x = if p x then 1 else 0 := by
  split
  next hp => rw [List.count_filter hp, List.count_eq_one_of_mem hnodup hmem]
  next hp => exact List.count_eq_zero.2 fun hmem => hp (List.mem_filter.1 hmem).2

/-- The endings, in lower case, of the files that the bundler takes care of by default. -/
def bundlerEndings : List Text := [".ts", ".js", ".tsx", ".jsx", ".css"]

/-- How a build deals with a file of the site, which is a matter of the file's ending. -/
inductive Handled (r : BuildReport) (rel : Text) : Prop where
  | compiled (hending : suffix rel = ".vyu") (hpage : (r.pages.map Prod.fst).count rel = 1)
      (hcopy : r.assets.count rel = 0)
  | copied (hending : Text.lower (suffix rel) ∉ ".vyu".toList :: bundlerEndings)
      (hpage : (r.pages.map Prod.fst).count rel = 0) (hcopy : r.assets.count rel = 1)
  | bundled (hending : Text.lower (suffix rel) ∈ bundlerEndings)
      (hpage : (r.pages.map Prod.fst).count rel = 0) (hcopy : r.assets.count rel = 0)
  /-- The ending of templates, but not in lower case: the file is left out. -/
  | leftOut (hending : suffix rel ≠ ".vyu") (hlower : Text.lower (suffix rel) = ".vyu")
      (hpage : (r.pages.map Prod.fst).count rel = 0) (hcopy : r.assets.count rel = 0)

/-- With the default settings, how often a file is listed tells how it is dealt with. -/
theorem handled_of_counts {rel : Text}
    (hpages : (r.pages.map Prod.fst).count rel = if isTemplate {} rel then 1 else 0)
    (hcopies : r.assets.count rel = if isBundled {} rel then 0 else 1) : Handled r rel := by
  have hbundled : isBundled {} rel = true ↔
      Text.lower (suffix rel) ∈ ".vyu".toList :: bundlerEndings := List.contains_iff_mem
  by_cases hending : suffix rel = ".vyu"
  · have hlower : isBundled {} rel = true := hbundled.2 (by rw [hending]; decide)
    exact .compiled hending (hpages.trans (if_pos (decide_eq_true hending)))
      (hcopies.trans (if_pos hlower))
  · have hnone := hpages.trans (if_neg fun htemplate => hending (of_decide_eq_true htemplate))
    by_cases hlower : isBundled {} rel = true
    · have hcopy := hcopies.trans (if_pos hlower)
      rcases List.mem_cons.1 (hbundled.1 hlower) with hcase | hrest
      · exact .leftOut hending hcase hnone hcopy
      · exact .bundled hrest hnone hcopy
    · exact .copied (fun hmem => hlower (hbundled.2 hmem)) hnone (hcopies.trans (if_neg hlower))

/-- What a report lists of the files of a site. -/
structure Accounted (b : Build) (before compiled : FileTree) (r : BuildReport) : Prop where
  /-- Both walks visit each file once. -/
  visited : ∀ names, IsSource b before names →
    (b.sourceFiles (b.prepared before)).count (ofSegments names) = 1 ∧
      (b.sourceFiles compiled).count (ofSegments names) = 1
  handled : ∀ names, IsSource b before names → Handled r (ofSegments names)
  /-- Nothing but files of the site is listed. -/
  listed : ∀ rel, rel ∈ r.pages.map Prod.fst ∨ rel ∈ r.assets → Found b before rel

namespace Course

variable (h : Course b w r after manifest loaded compiled) (hplain : Plain b w.tree)

include h

theorem sources_eq : r.pages.map Prod.fst = b.templates (b.prepared w.tree) := by
  rw [h.pages, List.map_map]
  exact List.map_id _

include hplain

theorem found_of_listed {rel : Text} (hrel : rel ∈ r.pages.map Prod.fst ∨ rel ∈ r.assets) :
    Found b w.tree rel := by
  rw [h.sources_eq, h.assets] at hrel
  rcases hrel with hpage | hcopy
  · exact h.prepared.found hplain.aside (List.mem_filter.1 hpage).1
  · exact h.midway.found hplain.aside (List.mem_filter.1 hcopy).1

variable (hsite : ∃ site, (b.prepared w.tree).locate b.site = .ok site)
  (hsource : IsSource b w.tree names)

include hsite hsource

/-- Before templates are compiled and before files are copied, each file of the site is visited. -/
theorem mem_sourceFiles : ofSegments names ∈ b.sourceFiles (b.prepared w.tree) ∧
    ofSegments names ∈ b.sourceFiles compiled.tree := by
  obtain ⟨site, hlocate⟩ := hsite
  have hfound : Found b w.tree (ofSegments names) := ⟨names, rfl, hsource⟩
  exact ⟨(h.prepared.mem_sourceFiles_iff hplain.aside).2 ⟨⟨site, hlocate⟩, hfound⟩,
    (h.midway.mem_sourceFiles_iff hplain.aside).2 ⟨⟨site, h.compiles.locate hlocate⟩, hfound⟩⟩

theorem count_sources : (r.pages.map Prod.fst).count (ofSegments names) =
    if isTemplate b.settings (ofSegments names) then 1 else 0 := by
  rw [h.sources_eq]
  exact count_filter_of_mem (nodup_sourceFiles h.prepared.lawful b)
    (h.mem_sourceFiles hplain hsite hsource).1 _

theorem count_assets : r.assets.count (ofSegments names) =
    if isBundled b.settings (ofSegments names) then 0 else 1 := by
  rw [h.assets, Build.copied, count_filter_of_mem (nodup_sourceFiles h.midway.lawful b)
    (h.mem_sourceFiles hplain hsite hsource).2]
  cases isBundled b.settings (ofSegments names) <;> rfl

end Course

/-- **Every file of the site is visited once by each walk and dealt with by its ending.** With the
    default settings, a file that ends in `.vyu` is the source of one page, and one whose ending, in
    lower case, is neither that nor one of the bundler's is copied once. What is left out has an
    ending of the bundler's, or one that is `.vyu` in lower case only, since templates are told by
    the ending as it stands. Nothing but files of the site is listed. The site's path only has to
    lead somewhere once the output directory is there. -/
theorem accounted_of_run (hplain : Plain b w.tree) (hdefault : b.settings = {})
    (hsite : ∃ site, (b.prepared w.tree).locate b.site = .ok site) (h : Gives b.run w r w') :
    ∃ manifest loaded compiled,
      Manifest.load b.reader (b.prepared w.tree) b.dist = .ok (manifest, loaded) ∧
      Gives ((b.templates (b.prepared w.tree)).mapM (b.compilePage manifest)) (b.started w loaded)
        r.pages compiled ∧
      Accounted b w.tree compiled.tree r := by
  obtain ⟨manifest, loaded, compiled, hcourse⟩ := course_of_run hplain h
  refine ⟨manifest, loaded, compiled, hcourse.loads, hcourse.compiling, fun names hsource => ?_,
    fun names hsource => ?_, fun rel hrel => hcourse.found_of_listed hplain hrel⟩
  · obtain ⟨hfirst, hsecond⟩ := hcourse.mem_sourceFiles hplain hsite hsource
    exact ⟨List.count_eq_one_of_mem (nodup_sourceFiles hcourse.prepared.lawful b) hfirst,
      List.count_eq_one_of_mem (nodup_sourceFiles hcourse.midway.lawful b) hsecond⟩
  · exact handled_of_counts (hdefault ▸ hcourse.count_sources hplain hsite hsource)
      (hdefault ▸ hcourse.count_assets hplain hsite hsource)

theorem accounted_pictureSite : ∃ w', Gives siteBuild.run pictureSite pictureReport w' ∧
    ∃ manifest loaded compiled,
      Manifest.load siteBuild.reader (siteBuild.prepared pictureSite.tree) siteBuild.dist =
          .ok (manifest, loaded) ∧
      Gives ((siteBuild.templates (siteBuild.prepared pictureSite.tree)).mapM
        (siteBuild.compilePage manifest)) (siteBuild.started pictureSite loaded)
        pictureReport.pages compiled ∧
      Accounted siteBuild pictureSite.tree compiled.tree pictureReport :=
  ⟨_, gives_pictureSite, accounted_of_run plain_pictureSite rfl ⟨["site".toList], by decide +kernel⟩
    gives_pictureSite⟩

/-- A site whose file has the ending of templates in capitals. -/
def capitalSite : Workspace := workspaceOf
  [(["site".toList], .directory),
   (["site".toList, "a.VYU".toList], .file (Utf8.encode "page".toList))]

/-- The file of `capitalSite` is listed nowhere, and the bundler does not take care of it. -/
theorem leftOut_capitalSite : Plain siteBuild capitalSite.tree ∧ siteBuild.settings = {} ∧
    IsSource siteBuild capitalSite.tree ["a.VYU".toList] ∧
    Text.lower (suffix (ofSegments ["a.VYU".toList])) ∉ bundlerEndings ∧
    ∃ w', Gives siteBuild.run capitalSite ⟨"dist", [], [], 0⟩ w' := by
  -- The site itself is the only directory above the file.
  have hlistable : ∀ inner rest, ["a.VYU".toList] = inner ++ rest → rest ≠ [] →
      capitalSite.tree.Listable siteBuild.site inner := by
    intro inner rest heq hrest
    obtain rfl : inner = [] := by
      cases inner with
      | nil => rfl
      | cons first more => simp_all
    exact ⟨by decide +kernel, by simp, rfl⟩
  exact ⟨⟨rfl, by decide, by decide +kernel, by decide +kernel⟩, rfl,
    ⟨by decide, ⟨Utf8.encode "page".toList, by decide +kernel⟩, by decide +kernel, hlistable⟩,
    by decide +kernel, _, gives_of_outcome (by decide +kernel)⟩

end Build
end PageLoom
