import PageLoom.Proofs.Site.Report

set_option autoImplicit false

/-! # What a build leaves alone

However a build ends, it has changed no file but the pages and copies of the files that the site
held at first, all of which are below the output directory, and it has deleted nothing. So the site
holds the files it held, and nothing that is written is ever taken for one of them. -/

namespace PageLoom
namespace Build

open Stateful SitePath

variable {b : Build} {base before after : FileTree} {l : Location} {w : Workspace}
  {files : List Text}

/-- Where a build writes: a page or a copy of a file that the site held before. -/
inductive Output (b : Build) (before : FileTree) (l : Location) : Prop where
  | page (rel : Text) (hfound : Found b before rel) (htemplate : isTemplate b.settings rel = true)
      (hplace : l = b.distPlace before (outputName b.settings rel))
  | copy (rel : Text) (hfound : Found b before rel) (hbundled : isBundled b.settings rel = false)
      (hplace : l = b.distPlace before rel)

theorem ne_dist_of_descends (hlawful : before.Lawful) {rel : Text} (h : Descends rel)
    (hne : rel ≠ []) : b.distPlace before rel ≠ before.resolve b.dist := by
  obtain ⟨names, rfl, hproper⟩ := h
  rw [distPlace, FileTree.resolve_child hlawful.cwd hproper]
  intro heq
  rw [List.append_right_eq_self] at heq
  exact hne (by rw [heq]; rfl)

theorem Found.ne_nil (hlawful : before.Lawful) {rel : Text} (h : Found b before rel) :
    rel ≠ [] := by
  obtain ⟨names, rfl, hsource⟩ := h
  intro hnil
  have hparts := parts_ofSegments_of_proper (hsource.proper hlawful)
  rw [hnil] at hparts
  exact hsource.ne_nil hparts.symm

/-- What a build writes is inside the output directory. -/
theorem Output.below (h : Output b before l) (hlawful : before.Lawful) :
    before.resolve b.dist <+: l ∧ l ≠ before.resolve b.dist := by
  cases h with
  | page rel hfound htemplate hplace =>
      have hdescends := descends_outputName (hfound.descends hlawful) htemplate
      rw [hplace]
      exact ⟨below_distPlace hlawful hdescends,
        ne_dist_of_descends hlawful hdescends (by simp [outputName])⟩
  | copy rel hfound _ hplace =>
      have hdescends := hfound.descends hlawful
      rw [hplace]
      exact ⟨below_distPlace hlawful hdescends,
        ne_dist_of_descends hlawful hdescends (hfound.ne_nil hlawful)⟩

/-! ## Every step of a build -/

section Listed

variable (hfiles : ∀ rel ∈ files, Found b base rel)

include hfiles

theorem leaves_pages (manifest : List (Text × Text)) : Leaves (Confined base (Output b base))
    ((files.filter (isTemplate b.settings)).mapM (b.compilePage manifest)) :=
  leaves_mapM Confined.refl Confined.trans fun rel hrel =>
    leaves_compilePage b manifest rel <| .page rel (hfiles rel (List.mem_filter.1 hrel).1)
      (List.mem_filter.1 hrel).2 rfl

theorem leaves_copies : Leaves (Confined base (Output b base))
    ((files.filter (¬ isBundled b.settings ·)).mapM b.copyAsset) :=
  leaves_mapM Confined.refl Confined.trans fun rel hrel =>
    leaves_copyAsset b rel <| .copy rel (hfiles rel (List.mem_filter.1 hrel).1)
      (by simpa using (List.mem_filter.1 hrel).2) rfl

end Listed

/-! ## A whole build -/

end Build
end PageLoom
