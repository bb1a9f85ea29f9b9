import PageLoom.Proofs.FileTree.Below
import PageLoom.Proofs.FileTree.Making
import PageLoom.Proofs.Page.Content
import PageLoom.Proofs.Site.Report

set_option autoImplicit false

/-! # Builds that end at a page

A page that does not compile ends the build. Nothing else ends it with the same report
(`fails_run`), so the report names the first such page on the walk. What is left behind is the tree
in which the pages before it were written, one after the other, each with the directories above it
(`WritesInTurn`): all that is said of this tree is by induction on these pages. -/

namespace PageLoom

open Stateful SitePath

namespace Build

variable {b : Build} {base before tree tree' after : FileTree} {w w' : Workspace}
  {manifest : List (Text × Text)} {rel reason : Text} {fault : WorkFault}

/-! ## Faults of the steps -/

/-- The page of a template that is listed is below the output directory. -/
theorem Stage.descends_outputName (h : Stage b base tree) (haside : Aside b base)
    (hrel : rel ∈ b.templates tree) : Descends (outputName b.settings rel) := by
  obtain ⟨hlisted, htemplate⟩ := List.mem_filter.1 hrel
  exact Build.descends_outputName ((h.found haside hlisted).descends haside.lawful) htemplate

/-- Where the page of a template is written. -/
abbrev pagePath (b : Build) (rel : Text) : Text := child b.dist (outputName b.settings rel)

/-- From one tree to another, the pages of templates are written one after the other, each as it
    compiles at first and with the directories above it. -/
inductive WritesInTurn (b : Build) (manifest : List (Text × Text)) (first : FileTree) :
    List Text → FileTree → FileTree → Prop
  | nil (tree : FileTree) : WritesInTurn b manifest first [] tree tree
  | cons {rel : Text} {rest : List Text} {tree next after : FileTree} (page : Page)
      (hpage : (Page.ofFile b.host b.settings (b.options manifest) first (child b.site rel)).1 =
        .ok page)
      (hmade : (tree.makeDirectories (FileTree.above (b.pagePath rel))).2 = .ok ())
      (hwrite : (tree.makeDirectories (FileTree.above (b.pagePath rel))).1.write (b.pagePath rel)
        (Utf8.encode page.html) = (next, .ok ()))
      (hrest : WritesInTurn b manifest first rest next after) :
      WritesInTurn b manifest first (rel :: rest) tree after

/-- The places of the pages of some templates. -/
def PagePlace (b : Build) (base : FileTree) (rels : List Text) (l : Location) : Prop :=
  ∃ rel ∈ rels, l = b.distPlace base (outputName b.settings rel)

namespace WritesInTurn

variable {first next : FileTree} {rels : List Text} {content : Octets} {l : Location}

/-- Writing one page changes the page. -/
theorem touches_of_write (hlawful : tree.Lawful) (hcwd : tree.cwd = base.cwd)
    (hwrite : (tree.makeDirectories (FileTree.above (b.pagePath rel))).1.write (b.pagePath rel)
      content = (next, .ok ())) :
    FileTree.Touches (· = b.distPlace base (outputName b.settings rel)) tree next ∧
      next.find (b.pagePath rel) = .ok (some (.file content)) := by
  have hmade := (tree.touches_makeDirectories (FileTree.above (b.pagePath rel))).1
  have hwritten := FileTree.touches_write (hmade.lawful hlawful).cwd (b.pagePath rel) content
  rw [hwrite] at hwritten
  refine ⟨(hmade.mono fun _ => False.elim).trans (hwritten.mono fun l hl => ?_),
    FileTree.find_of_write hwrite⟩
  rw [hl, hmade.resolve, FileTree.resolve_congr hcwd]
  rfl

/-- Writing pages changes the pages and nothing else. -/
theorem touches (h : WritesInTurn b manifest first rels tree after) (hlawful : tree.Lawful)
    (hcwd : tree.cwd = base.cwd) : FileTree.Touches (b.PagePlace base rels) tree after := by
  induction h with
  | nil tree => exact .refl _ tree
  | cons page _ _ hwrite _ ih =>
      have hfirst := (touches_of_write hlawful hcwd hwrite).1
      have hrest := ih (hfirst.lawful hlawful) (hfirst.cwd.trans hcwd)
      refine (hfirst.mono fun l hl => ⟨_, List.mem_cons_self, hl⟩).trans (hrest.mono ?_)
      rintro l ⟨rel, hrel, hl⟩
      exact ⟨rel, List.mem_cons_of_mem _ hrel, hl⟩

/-- The directories that are new are on the way of a page. -/
theorem directories (h : WritesInTurn b manifest first rels tree after) (hlawful : tree.Lawful)
    (hcwd : tree.cwd = base.cwd) (hl : after.node? l = some .directory) :
    tree.node? l = some .directory ∨ ∃ rel ∈ rels, FileTree.OnTheWay base (b.pagePath rel) l := by
  induction h with
  | nil tree => exact .inl hl
  | @cons rel rest tree next after page _ _ hwrite _ ih =>
      have hfirst := (touches_of_write hlawful hcwd hwrite).1
      rcases ih (hfirst.lawful hlawful) (hfirst.cwd.trans hcwd) hl with hnext | ⟨r, hr, hway⟩
      · -- The page itself is no directory, so what is new was made above it.
        rcases FileTree.onTheWay_of_makeDirectories (FileTree.directory_of_write hwrite hnext)
          with hthere | hway
        · exact .inl hthere
        · exact .inr ⟨rel, List.mem_cons_self, (hway.of_above).of_cwd hcwd⟩
      · exact .inr ⟨r, List.mem_cons_of_mem _ hr, hway⟩

/-- A page that no later one replaces is there in the end. -/
theorem written (h : WritesInTurn b manifest first rels tree after) (hlawful : tree.Lawful)
    (hbase : base.Lawful) (hcwd : tree.cwd = base.cwd)
    (hdescends : ∀ rel ∈ rels, Descends (outputName b.settings rel)) {start rest : List Text}
    (hrels : rels = start ++ rel :: rest)
    (hlast : ∀ other ∈ rest, outputName b.settings other ≠ outputName b.settings rel) :
    ∃ page,
      (Page.ofFile b.host b.settings (b.options manifest) first (child b.site rel)).1 = .ok page ∧
      after.find (b.pagePath rel) = .ok (some (.file (Utf8.encode page.html))) := by
  induction h generalizing start with
  | nil tree => simp at hrels
  | @cons rel' rest' tree next after page hpage hmade hwrite hrest ih =>
      obtain ⟨hfirst, hthere⟩ := touches_of_write hlawful hcwd hwrite
      have hnext := hfirst.lawful hlawful
      have hcwd' := hfirst.cwd.trans hcwd
      cases start with
      | cons r start =>
          obtain ⟨-, rfl⟩ := List.cons.inj hrels
          exact ih hnext hcwd' (fun r hr => hdescends r (List.mem_cons_of_mem _ hr)) rfl
      | nil =>
          obtain ⟨rfl, rfl⟩ := List.cons.inj hrels
          refine ⟨page, hpage, (hrest.touches hnext hcwd').find hnext.cwd ?_ hthere⟩
          rintro ⟨other, hother, hplace⟩
          rw [FileTree.resolve_congr hcwd'] at hplace
          exact hlast other hother (distPlace_injOn hbase
            (hdescends other (List.mem_cons_of_mem _ hother))
            (hdescends _ List.mem_cons_self) hplace.symm)

end WritesInTurn

/-! ## What is left behind -/

end Build
end PageLoom
