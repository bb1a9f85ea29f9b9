import PageLoom.Proofs.FileTree.Below
import PageLoom.Proofs.Page.Content
import PageLoom.Proofs.Site.Output
import PageLoom.Proofs.Site.Source

set_option autoImplicit false

/-! # Which pages are reported

A build reports the templates it has compiled, each with its page. Wherever the output directory is,
even if it is the site, nothing is written but pages, and no page has the ending of templates. So
the templates a build comes upon are files that were there at first (`Reported`), and none of them
is reported twice (`reported_of_visit`). -/

namespace PageLoom

open Stateful SitePath

namespace Build

variable {b : Build} {first tree : FileTree} {w w' : Workspace} {manifest : List (Text × Text)}
  {names names' : List Text} {l site dist : Location} {p q : Text × Text} {content : Octets}

/-! ## Where pages are written -/

/-- A location with the name of a page. -/
def IsHtml (l : Location) : Prop :=
  ∃ (folders : List Text) (stem : Text), l = folders ++ [stem ++ ".html".toList]

theorem isHtml_outputName (hlawful : first.Lawful) (hext : b.settings.templateExtension ≠ [])
    (hnames : ∀ name ∈ names, Proper name)
    (htemplate : isTemplate b.settings (ofSegments names) = true) :
    IsHtml (first.resolve (child b.dist (outputName b.settings (ofSegments names)))) := by
  obtain ⟨folders, stem, -, rfl, houtput⟩ := exists_stem hext hnames htemplate
  have hproper : ∀ name ∈ folders ++ [stem ++ ".html".toList], Proper name := by
    intro name hname
    rcases List.mem_append.1 hname with hfolder | hlast
    · exact hnames name (List.mem_append_left _ hfolder)
    · rw [List.mem_singleton.1 hlast]
      have hslash := (hnames _ (List.mem_append_right _ List.mem_cons_self)).no_slash
      exact proper_html fun hmem => hslash (List.mem_append_left _ hmem)
  rw [houtput, FileTree.resolve_child hlawful.cwd hproper, ← List.append_assoc]
  exact ⟨_, stem, rfl⟩

/-- A template does not have the name of a page. -/
theorem not_isHtml_of_isTemplate (hdefault : b.settings = {}) (hnames : ∀ name ∈ names, Proper name)
    (htemplate : isTemplate b.settings (ofSegments names) = true) (l : Location) :
    ¬ IsHtml (l ++ names) := by
  obtain ⟨folders, stem, -, rfl, -⟩ := exists_stem (by rw [hdefault]; decide) hnames htemplate
  rintro ⟨folders', stem', heq⟩
  rw [← List.append_assoc] at heq
  have hlast := (List.append_inj' heq rfl).2
  rw [hdefault, List.singleton_inj] at hlast
  have hend := congrArg List.getLast? hlast
  simp at hend

/-! ## Reports -/

/-- A pair that is reported: a template of the site, by its names from there, and its page. The
    template was a file of the site at first and compiles as it was then. -/
structure Reported (b : Build) (manifest : List (Text × Text)) (first : FileTree)
    (names : List Text) (p : Text × Text) : Prop where
  ne_nil : names ≠ []
  proper : ∀ name ∈ names, Proper name
  template : isTemplate b.settings (ofSegments names) = true
  pair : p = (ofSegments names, outputName b.settings (ofSegments names))
  located : ∃ site, first.locate b.site = .ok site
  compiles : ∃ content page, first.read (child b.site (ofSegments names)) = .ok content ∧
    (Page.ofContent b.host b.settings (b.options manifest) first.cwdText
      (child b.site (ofSegments names)) content).1 = .ok page

theorem Reported.names_inj (h : Reported b manifest first names p)
    (h' : Reported b manifest first names' q) (heq : p.1 = q.1) : names = names' := by
  rw [h.pair, h'.pair] at heq
  exact ofSegments_injOn h.proper h'.proper heq

/-- While nothing but pages has been written, compiling a template that is there makes a report. -/
theorem reported_of_compilePage (hdefault : b.settings = {}) (hfirst : first.Lawful)
    (hsite : first.locate b.site = .ok site) (hsofar : FileTree.Touches IsHtml first w.tree)
    (hne : names ≠ [])
    (hnode : w.tree.node? (first.resolve b.site ++ names) = some (.file content))
    (htemplate : isTemplate b.settings (ofSegments names) = true)
    (h : Gives (b.compilePage manifest (ofSegments names)) w p w') :
    Reported b manifest first names p ∧ FileTree.Touches IsHtml w.tree w'.tree := by
  have hlawful := hsofar.lawful hfirst
  have hproper : ∀ name ∈ names, Proper name :=
    fun name hname => hlawful.proper_of_node hnode name (List.mem_append_right _ hname)
  have hext : b.settings.templateExtension ≠ [] := by
    rw [hdefault]
    decide
  have hwritten : Leaves (Confined w.tree IsHtml) (b.compilePage manifest (ofSegments names)) :=
    leaves_compilePage b manifest _ (isHtml_outputName hlawful hext hproper htemplate)
  obtain ⟨page, hpage, hwrite⟩ := gives_compilePage_iff.1 h
  obtain ⟨w₁, -, -, hpair⟩ := gives_writePage_iff.1 hwrite
  -- What was read could be read at first.
  obtain ⟨source, hread⟩ := Page.exists_read_of_ofFile hpage
  rw [Page.ofFile_of_read hread, FileTree.cwdText_congr hsofar.cwd] at hpage
  have hbefore := (hsofar.read_child_iff hfirst hproper hsite
    (not_isHtml_of_isTemplate hdefault hproper htemplate _)).1 hread
  exact ⟨⟨hne, hproper, htemplate, hpair, ⟨site, hsite⟩, source, page, hbefore, hpage⟩,
    hwritten.gives h hlawful rfl⟩

/-! ## Visits -/

/-- Pairs that are reported of the templates below some names from the site, none of them twice. -/
structure ReportedBelow (b : Build) (manifest : List (Text × Text)) (first : FileTree)
    (names : List Text) (pages : List (Text × Text)) : Prop where
  below : ∀ p ∈ pages, ∃ rest, rest ≠ [] ∧ Reported b manifest first (names ++ rest) p
  apart : pages.Pairwise fun p q => p.1 ≠ q.1

theorem exists_of_forall₂ {α β : Type} {R : α → β → Prop} {xs : List α} {ys : List β} {y : β}
    (h : List.Forall₂ R xs ys) (hy : y ∈ ys) : ∃ x ∈ xs, R x y := by
  induction h with
  | nil => exact absurd hy List.not_mem_nil
  | @cons x z xs ys hfirst _ ih =>
      rcases List.mem_cons.1 hy with rfl | hrest
      · exact ⟨x, List.mem_cons_self, hfirst⟩
      · obtain ⟨x', hx', hR⟩ := ih hrest
        exact ⟨x', List.mem_cons_of_mem _ hx', hR⟩

/-- Lists that belong together are apart alike. -/
theorem pairwise_of_forall₂ {α β : Type} {R : α → β → Prop} {S : α → α → Prop} {T : β → β → Prop}
    {xs : List α} {ys : List β} (h : List.Forall₂ R xs ys) (hxs : xs.Pairwise S)
    (himp : ∀ x y x' y', R x y → R x' y' → S x x' → T y y') : ys.Pairwise T := by
  induction h with
  | nil => exact .nil
  | @cons x y xs ys hfirst hrest ih =>
      obtain ⟨hx, hxs⟩ := List.pairwise_cons.1 hxs
      refine List.pairwise_cons.2 ⟨fun y' hy' => ?_, ih hxs⟩
      obtain ⟨x', hx', hR⟩ := exists_of_forall₂ hrest hy'
      exact himp x y x' y' hfirst hR (hx x' hx')

/-- What is reported of a directory's own files and of each of its directories is reported of what
    is below it: files stand under one name, and others under more, of which the first tells in
    which directory. -/
theorem reportedBelow_append {own : List (Text × Text)} {inner : List (List (Text × Text))}
    {directories : List Text}
    (hownbelow : ∀ p ∈ own, ∃ name, Reported b manifest first (names ++ [name]) p)
    (hownapart : own.Pairwise fun p q => p.1 ≠ q.1)
    (hinner : List.Forall₂
      (fun name pages => ReportedBelow b manifest first (names ++ [name]) pages)
      directories inner) (hnodup : directories.Nodup) :
    ReportedBelow b manifest first names (own ++ inner.flatten) := by
  have hinnerbelow : ∀ p ∈ inner.flatten, ∃ name rest, rest ≠ [] ∧
      Reported b manifest first (names ++ [name] ++ rest) p := by
    intro p hp
    obtain ⟨pages, hpages, hp⟩ := List.mem_flatten.1 hp
    obtain ⟨name, -, hbelow⟩ := exists_of_forall₂ hinner hpages
    obtain ⟨rest, hrest⟩ := hbelow.below p hp
    exact ⟨name, rest, hrest⟩
  constructor
  · intro p hp
    rcases List.mem_append.1 hp with hown | hdeep
    · obtain ⟨name, hreported⟩ := hownbelow p hown
      exact ⟨[name], by simp, hreported⟩
    · obtain ⟨name, rest, -, hreported⟩ := hinnerbelow p hdeep
      rw [List.append_assoc] at hreported
      exact ⟨[name] ++ rest, by simp, hreported⟩
  · rw [List.pairwise_append, List.pairwise_flatten]
    refine ⟨hownapart, ⟨?_, ?_⟩, ?_⟩
    · intro pages hpages
      obtain ⟨name, -, hbelow⟩ := exists_of_forall₂ hinner hpages
      exact hbelow.apart
    · refine pairwise_of_forall₂ hinner hnodup fun name pages name' pages' hbelow hbelow' hne => ?_
      intro p hp q hq heq
      obtain ⟨rest, -, hreported⟩ := hbelow.below p hp
      obtain ⟨rest', -, hreported'⟩ := hbelow'.below q hq
      have hnames := hreported.names_inj hreported' heq
      rw [List.append_assoc, List.append_assoc] at hnames
      exact hne (List.cons.inj (List.append_cancel_left hnames)).1
    · intro p hp q hq heq
      obtain ⟨name, hreported⟩ := hownbelow p hp
      obtain ⟨name', rest, hrest, hreported'⟩ := hinnerbelow q hq
      have hnames := hreported.names_inj hreported' heq
      rw [List.append_assoc] at hnames
      exact hrest (List.cons.inj (List.append_cancel_left hnames)).2.symm

/-! ## One directory after the other -/

/-- The templates among the files of one directory of the site. -/
def templatesIn (b : Build) (tree : FileTree) (site : Location) (names : List Text) : List Text :=
  ((tree.filesIn (site ++ names)).map fun name => ofSegments (names ++ [name])).filter
    (isTemplate b.settings)

theorem of_mem_templatesIn {rel : Text} (hlawful : tree.Lawful)
    (hrel : rel ∈ b.templatesIn tree site names) :
    isTemplate b.settings rel = true ∧ ∃ name content, rel = ofSegments (names ++ [name]) ∧
      tree.node? (site ++ (names ++ [name])) = some (.file content) := by
  obtain ⟨hlisted, htemplate⟩ := List.mem_filter.1 hrel
  obtain ⟨name, hname, rfl⟩ := List.mem_map.1 hlisted
  obtain ⟨content, hnode⟩ := (FileTree.mem_filesIn_iff hlawful).1 hname
  rw [List.append_assoc] at hnode
  exact ⟨htemplate, name, content, rfl, hnode⟩

/-- Names that differ make paths that differ. -/
theorem nodup_templatesIn (hlawful : tree.Lawful) : (b.templatesIn tree site names).Nodup := by
  have hproper : ∀ name ∈ tree.filesIn (site ++ names), ∀ n ∈ names ++ [name], Proper n := by
    intro name hname n hn
    obtain ⟨content, hnode⟩ := (FileTree.mem_filesIn_iff hlawful).1 hname
    rw [List.append_assoc] at hnode
    exact hlawful.proper_of_node hnode n (List.mem_append_right _ hn)
  refine ((FileTree.nodup_namesIn hlawful _).map_on ?_).filter _
  intro name hname name' hname' heq
  have hnames := ofSegments_injOn (hproper name hname) (hproper name' hname') heq
  exact List.singleton_inj.1 (List.append_cancel_left hnames)

section Visit

variable (hdefault : b.settings = {}) (hfirst : first.Lawful)
  (hsite : first.locate b.site = .ok site)

include hdefault hfirst hsite

/-- The templates of one directory are reported once each. -/
theorem reported_of_mapM {pages : List (Text × Text)}
    (hsofar : FileTree.Touches IsHtml first w.tree)
    (h : Gives ((b.templatesIn w.tree (first.resolve b.site) names).mapM (b.compilePage manifest)) w
      pages w') :
    (∀ p ∈ pages, ∃ name, Reported b manifest first (names ++ [name]) p) ∧
      (pages.Pairwise fun p q => p.1 ≠ q.1) ∧ FileTree.Touches IsHtml w.tree w'.tree := by
  have hlawful := hsofar.lawful hfirst
  have hdone : ∀ rel ∈ b.templatesIn w.tree (first.resolve b.site) names, ∀ s p s',
      FileTree.Touches IsHtml w.tree s.tree → Gives (b.compilePage manifest rel) s p s' →
        (p.1 = rel ∧ ∃ name, Reported b manifest first (names ++ [name]) p) ∧
          FileTree.Touches IsHtml w.tree s'.tree := by
    intro rel hrel s p s' hs hstep
    obtain ⟨htemplate, name, content, rfl, hnode⟩ := of_mem_templatesIn hlawful hrel
    have hproper : ∀ n ∈ names ++ [name], Proper n :=
      fun n hn => hlawful.proper_of_node hnode n (List.mem_append_right _ hn)
    -- The template is still there when its turn comes.
    have hstill := (hs.files _ (not_isHtml_of_isTemplate hdefault hproper htemplate _) _).2 hnode
    obtain ⟨hreported, hnext⟩ := reported_of_compilePage hdefault hfirst hsite (hsofar.trans hs)
      (by simp) hstill htemplate hstep
    exact ⟨⟨by rw [hreported.pair], name, hreported⟩, hs.trans hnext⟩
  obtain ⟨hall, htouches⟩ := Gives.mapM_each hdone h (.refl _ _)
  refine ⟨fun p hp => ?_, pairwise_of_forall₂ hall (nodup_templatesIn hlawful) ?_, htouches⟩
  · obtain ⟨-, -, -, hreported⟩ := exists_of_forall₂ hall hp
    exact hreported
  · rintro rel p rel' q ⟨hp, -⟩ ⟨hq, -⟩ hne
    rwa [hp, hq]

theorem reportedBelow_of_go {fuel : ℕ} {pages : List (Text × Text)}
    (hsofar : FileTree.Touches IsHtml first w.tree)
    (h : Gives (visit.go b (isTemplate b.settings) (b.compilePage manifest) (first.resolve b.site)
      dist fuel names) w pages w') :
    ReportedBelow b manifest first names pages ∧ FileTree.Touches IsHtml first w'.tree := by
  induction fuel generalizing names w w' pages with
  | zero =>
      obtain ⟨rfl, rfl⟩ := gives_pure_iff.1 h
      exact ⟨⟨fun _ hp => absurd hp List.not_mem_nil, .nil⟩, hsofar⟩
  | succ fuel ih =>
      rw [visit.go, gives_bind_iff] at h
      obtain ⟨_, w, hget, h⟩ := h
      obtain ⟨rfl, rfl⟩ := gives_get_iff.1 hget
      dsimp only at h
      split at h
      next =>
        obtain ⟨rfl, rfl⟩ := gives_pure_iff.1 h
        exact ⟨⟨fun _ hp => absurd hp List.not_mem_nil, .nil⟩, hsofar⟩
      simp only [gives_bind_iff, gives_pure_iff] at h
      obtain ⟨own, w₁, hown, inner, w₂, hinner, rfl, rfl⟩ := h
      have hlawful := hsofar.lawful hfirst
      -- The files of the directory itself, and then those of its directories in turn.
      obtain ⟨hownbelow, hownapart, hownwritten⟩ :=
        reported_of_mapM hdefault hfirst hsite hsofar hown
      have hinside : ∀ name ∈ (w.tree.directoriesIn (first.resolve b.site ++ names)).filter
            (fun name => first.resolve b.site ++ names ++ [name] ≠ dist), ∀ s pages t,
          FileTree.Touches IsHtml first s.tree →
          Gives (visit.go b (isTemplate b.settings) (b.compilePage manifest) (first.resolve b.site)
            dist fuel (names ++ [name])) s pages t →
          ReportedBelow b manifest first (names ++ [name]) pages ∧
            FileTree.Touches IsHtml first t.tree := by
        intro name _ s pages t hs hgo
        exact ih hs hgo
      obtain ⟨hall, hlast⟩ := Gives.mapM_each hinside hinner (hsofar.trans hownwritten)
      refine ⟨?_, hlast⟩
      exact reportedBelow_append hownbelow hownapart hall
        ((FileTree.nodup_namesIn hlawful _).filter _)

end Visit

variable {pages : List (Text × Text)}

/-- **What is reported.** A visit that compiles templates, whatever the output directory, reports
    files that the site held at first, none of them twice, and writes nothing but pages. -/
theorem reported_of_visit (hdefault : b.settings = {}) (hlawful : w.tree.Lawful)
    (h : Gives (b.visit (isTemplate b.settings) (b.compilePage manifest)) w pages w') :
    (∀ p ∈ pages, ∃ names, Reported b manifest w.tree names p) ∧
      (pages.Pairwise fun p q => p.1 ≠ q.1) ∧ FileTree.Touches IsHtml w.tree w'.tree := by
  rw [visit, gives_bind_iff] at h
  obtain ⟨_, w, hget, h⟩ := h
  obtain ⟨rfl, rfl⟩ := gives_get_iff.1 hget
  cases hsite : w.tree.locate b.site with
  | error fault =>
      simp only [hsite] at h
      obtain ⟨rfl, rfl⟩ := gives_pure_iff.1 h
      exact ⟨fun _ hp => absurd hp List.not_mem_nil, .nil, .refl _ _⟩
  | ok site =>
      simp only [hsite] at h
      rw [FileTree.locate_eq_resolve hlawful.cwd hsite] at h
      obtain ⟨⟨hbelow, hapart⟩, htouches⟩ :=
        reportedBelow_of_go hdefault hlawful hsite (.refl _ _) h
      refine ⟨fun p hp => ?_, hapart, htouches⟩
      obtain ⟨rest, -, hreported⟩ := hbelow p hp
      exact ⟨[] ++ rest, hreported⟩

/-- No two templates that are reported have the same page. -/
theorem nodup_outputs (hdefault : b.settings = {})
    (hreported : ∀ p ∈ pages, ∃ names, Reported b manifest first names p)
    (hapart : pages.Pairwise fun p q => p.1 ≠ q.1) : (pages.map Prod.snd).Nodup := by
  refine List.pairwise_map.2 (hapart.imp_of_mem fun {p q} hp hq hne heq => hne ?_)
  obtain ⟨names, h⟩ := hreported p hp
  obtain ⟨names', h'⟩ := hreported q hq
  rw [h.pair, h'.pair] at heq ⊢
  exact outputName_injOn (by rw [hdefault]; decide) ⟨names, rfl, h.proper⟩ ⟨names', rfl, h'.proper⟩
    h.template h'.template heq

/-- A template that is reported can be read before and after, with the content it was compiled
    with. -/
theorem Reported.exists_read (h : Reported b manifest first names p) (hdefault : b.settings = {})
    (hlawful : first.Lawful) (htouches : FileTree.Touches IsHtml first tree) :
    ∃ content page, tree.read (child b.site p.1) = .ok content ∧
      (Page.ofContent b.host b.settings (b.options manifest) tree.cwdText (child b.site p.1)
        content).1 = .ok page := by
  obtain ⟨content, page, hread, hpage⟩ := h.compiles
  obtain ⟨site, hsite⟩ := h.located
  have hout : ¬ IsHtml (first.resolve b.site ++ names) :=
    not_isHtml_of_isTemplate hdefault h.proper h.template _
  rw [h.pair, FileTree.cwdText_congr htouches.cwd]
  exact ⟨content, page, (htouches.read_child_iff hlawful h.proper hsite hout).2 hread, hpage⟩

end Build
end PageLoom
