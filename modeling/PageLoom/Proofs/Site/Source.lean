import PageLoom.Proofs.FileTree.Below
import PageLoom.Proofs.FileTree.Listing
import PageLoom.Proofs.Text.Trim
import PageLoom.Site.Build

set_option autoImplicit false

/-! # Which files a build visits

A build visits every file of the site that is not below the output directory or a directory that
cannot be listed, and none twice (`mem_sourceFiles_iff`, `nodup_sourceFiles`). A template's page
stands where the template does, under a name of its own. -/

namespace PageLoom

namespace Text

/-- What stands before and after the last of some characters. -/
theorem eq_of_splitLast? {c : Char} {t before after : Text}
    (h : splitLast? c t = some (before, after)) : t = before ++ c :: after := by
  simp only [splitLast?, drop_length_takeWhile] at h
  split at h
  next => cases h
  next d start hrest =>
    obtain ⟨rfl, rfl⟩ := Prod.mk.inj (Option.some.inj h)
    -- The reversed text is what it holds before the first of the characters, and the rest.
    have hback := List.takeWhile_append_dropWhile (p := (· ≠ c)) (l := t.reverse)
    have hd : d = c := by
      have hhead := List.head?_dropWhile_not (fun x => decide (x ≠ c)) t.reverse
      rw [hrest] at hhead
      simpa using hhead
    rw [hrest] at hback
    calc t = (t.reverse.takeWhile (· ≠ c) ++ d :: start).reverse := by
          rw [hback, List.reverse_reverse]
      _ = start.reverse ++ c :: (t.reverse.takeWhile (· ≠ c)).reverse := by
          rw [List.reverse_append, List.reverse_cons, List.append_assoc, hd]
          rfl

end Text

namespace SitePath

variable {names : List Text} {last : Text}

theorem ofSegments_append_last (names : List Text) (s t : Text) :
    ofSegments (names ++ [s ++ t]) = ofSegments (names ++ [s]) ++ t := by
  induction names with
  | nil => simp [ofSegments, Text.join, List.intercalate]
  | cons first rest ih =>
      have hcons : ∀ more : Text, ofSegments (first :: rest ++ [more]) =
          first ++ '/' :: ofSegments (rest ++ [more]) := by
        intro more
        cases rest <;> simp [ofSegments, Text.join, List.intercalate]
      rw [hcons, hcons, ih, List.append_assoc]
      rfl

theorem name_ofSegments (h : ∀ name ∈ names ++ [last], Proper name) :
    name (ofSegments (names ++ [last])) = last := by
  rw [name, parts_ofSegments_of_proper h, List.getLast?_concat]
  rfl

end SitePath

namespace Build

open SitePath

variable {b : Build} {settings : Settings} {tree : FileTree} {names : List Text} {rel rel' : Text}

/-! ## Templates and their pages -/

/-- A template's name and that of its page have the same stem. -/
theorem exists_stem (hext : settings.templateExtension ≠ [])
    (hnames : ∀ name ∈ names, Proper name)
    (htemplate : isTemplate settings (ofSegments names) = true) :
    ∃ folders stem, stem ≠ [] ∧ names = folders ++ [stem ++ settings.templateExtension] ∧
      outputName settings (ofSegments names) =
        ofSegments (folders ++ [stem ++ ".html".toList]) := by
  have hsuffix : suffix (ofSegments names) = settings.templateExtension :=
    of_decide_eq_true htemplate
  rcases List.eq_nil_or_concat names with rfl | ⟨folders, last, rfl⟩
  · exact absurd hsuffix.symm hext
  · rw [List.concat_eq_append] at *
    rw [suffix, name_ofSegments hnames] at hsuffix
    split at hsuffix
    next stem ending hsplit =>
      split at hsuffix
      · exact absurd hsuffix.symm hext
      next hparts =>
        rw [not_or, List.isEmpty_iff] at hparts
        have hlast : last = stem ++ settings.templateExtension := by
          rw [Text.eq_of_splitLast? hsplit, hsuffix]
        subst hlast
        refine ⟨folders, stem, hparts.1, rfl, ?_⟩
        have hsize : settings.templateExtension.length ≠ 0 := by simpa using hext
        rw [ofSegments_append_last, ofSegments_append_last, outputName, if_neg hsize]
        simp
    next => exact absurd hsuffix.symm hext

theorem proper_html {stem : Text} (hslash : '/' ∉ stem) : Proper (stem ++ ".html".toList) where
  ne_nil := by simp
  no_slash := by simp [hslash]
  ne_dot h := by simpa using congrArg List.length h
  ne_dots h := by simpa using congrArg List.length h

/-- A template's page is below the directory of the page. -/
theorem descends_outputName (hrel : Descends rel) (htemplate : isTemplate settings rel = true) :
    Descends (outputName settings rel) := by
  obtain ⟨names, rfl, hnames⟩ := hrel
  by_cases hext : settings.templateExtension = []
  · -- Without an ending of templates, nothing is left of the template's name.
    refine ⟨[".html".toList], by rw [outputName, hext]; rfl, fun name hname => ?_⟩
    rw [List.mem_singleton.1 hname]
    exact @proper_html [] List.not_mem_nil
  · obtain ⟨folders, stem, -, rfl, houtput⟩ := exists_stem hext hnames htemplate
    refine ⟨_, houtput, fun name hname => ?_⟩
    rcases List.mem_append.1 hname with hfolder | hlast
    · exact hnames name (List.mem_append_left _ hfolder)
    · rw [List.mem_singleton.1 hlast]
      have hslash := (hnames _ (List.mem_append_right _ List.mem_cons_self)).no_slash
      exact proper_html fun hmem => hslash (List.mem_append_left _ hmem)

/-- No two templates have the same page. -/
theorem outputName_injOn (hext : settings.templateExtension ≠ []) (hrel : Descends rel)
    (hrel' : Descends rel') (htemplate : isTemplate settings rel = true)
    (htemplate' : isTemplate settings rel' = true)
    (heq : outputName settings rel = outputName settings rel') : rel = rel' := by
  obtain ⟨names, rfl, hnames⟩ := hrel
  obtain ⟨names', rfl, hnames'⟩ := hrel'
  obtain ⟨folders, stem, -, rfl, houtput⟩ := exists_stem hext hnames htemplate
  obtain ⟨folders', stem', -, rfl, houtput'⟩ := exists_stem hext hnames' htemplate'
  rw [houtput, houtput', ofSegments_append_last, ofSegments_append_last] at heq
  rw [ofSegments_append_last, ofSegments_append_last, List.append_cancel_right heq]

/-! ## Files visited -/

/-- Whether a walk of the site enters the directory with some names from the site. -/
def enters (b : Build) (tree : FileTree) (site : Location) (names : List Text) : Bool :=
  tree.isListed (child b.site (ofSegments names)) &&
    (names.isEmpty || site ++ names ≠ tree.resolve b.dist)

theorem enters_iff {site : Location} : b.enters tree site names = true ↔
    tree.isListed (child b.site (ofSegments names)) = true ∧
      (names = [] ∨ site ++ names ≠ tree.resolve b.dist) := by
  simp [enters]

/-- The paths, seen from the site, of all files that a walk of the site comes upon. -/
def sourceFiles (b : Build) (tree : FileTree) : List Text :=
  match tree.locate b.site with
  | .ok site => (tree.filesBelow (b.enters tree site) site).map SitePath.ofSegments
  | .error _ => []

/-- A file of the site as a build names it: it is not below the output directory, and no directory
    above it is kept from being listed. -/
structure IsSource (b : Build) (tree : FileTree) (names : List Text) : Prop where
  ne_nil : names ≠ []
  file : ∃ content, tree.node? (tree.resolve b.site ++ names) = some (.file content)
  outside : ¬ tree.resolve b.dist <+: tree.resolve b.site ++ names
  listable : ∀ inner rest, names = inner ++ rest → rest ≠ [] → tree.Listable b.site inner

/-- A path, seen from the site, of a file of the site. -/
def Found (b : Build) (tree : FileTree) (rel : Text) : Prop :=
  ∃ names, rel = ofSegments names ∧ IsSource b tree names

theorem IsSource.proper (hlawful : tree.Lawful) (h : IsSource b tree names) :
    ∀ name ∈ names, Proper name := by
  obtain ⟨content, hnode⟩ := h.file
  exact fun name hname => hlawful.proper_of_node hnode name (List.mem_append_right _ hname)

/-- Changes below the output directory make no file one of the site, and none cease to be one. -/
theorem isSource_iff_of_touches {tree' : FileTree} {locations : Location → Prop}
    (h : FileTree.Touches locations tree tree')
    (hbelow : ∀ l, locations l → tree.resolve b.dist <+: l) :
    IsSource b tree' names ↔ IsSource b tree names := by
  constructor
  · rintro ⟨hne, ⟨content, hfile⟩, houtside, hlistable⟩
    rw [h.resolve, h.resolve] at houtside
    rw [h.resolve] at hfile
    exact ⟨hne, ⟨content, (h.files _ (fun hl => houtside (hbelow _ hl)) _).1 hfile⟩, houtside,
      fun inner rest heq hrest => h.listable_iff.1 (hlistable inner rest heq hrest)⟩
  · rintro ⟨hne, ⟨content, hfile⟩, houtside, hlistable⟩
    refine ⟨hne, ⟨content, ?_⟩, ?_,
      fun inner rest heq hrest => h.listable_iff.2 (hlistable inner rest heq hrest)⟩
    · rw [h.resolve]
      exact (h.files _ (fun hl => houtside (hbelow _ hl)) _).2 hfile
    · rwa [h.resolve, h.resolve]

theorem Found.descends (hlawful : tree.Lawful) (h : Found b tree rel) : Descends rel := by
  obtain ⟨names, rfl, hsource⟩ := h
  exact ⟨names, rfl, hsource.proper hlawful⟩

theorem nodup_sourceFiles (h : tree.Lawful) (b : Build) : (b.sourceFiles tree).Nodup := by
  unfold sourceFiles
  split
  next site hsite =>
    refine (FileTree.nodup_filesBelow h _ site).map_on fun names hnames names' hnames' heq => ?_
    obtain ⟨-, ⟨_, hnode⟩, -⟩ := (FileTree.mem_filesBelow_iff h).1 hnames
    obtain ⟨-, ⟨_, hnode'⟩, -⟩ := (FileTree.mem_filesBelow_iff h).1 hnames'
    exact ofSegments_injOn
      (fun name hname => h.proper_of_node hnode name (List.mem_append_right _ hname))
      (fun name hname => h.proper_of_node hnode' name (List.mem_append_right _ hname)) heq
  next => exact List.nodup_nil

/-- From a directory that is not below the output directory, a walk comes upon the files that are
    not below it either, unless a directory on the way is kept from being listed. -/
theorem passes_iff {site : Location} (h : tree.Lawful) (hlocate : tree.locate b.site = .ok site)
    (hdist : tree.node? (tree.resolve b.dist) = some .directory)
    (hapart : ¬ tree.resolve b.dist <+: site ++ names) {below : List Text} {content : Octets}
    (hfile : tree.node? (site ++ names ++ below) = some (.file content)) :
    FileTree.Passes (fun inner => b.enters tree site (names ++ inner)) below ↔
      ¬ tree.resolve b.dist <+: site ++ names ++ below ∧
        ∀ inner rest, below = inner ++ rest → rest ≠ [] →
          tree.Listable b.site (names ++ inner) := by
  -- A directory on the way to the file is listed if nothing keeps it from that.
  have hlisted : ∀ inner rest, below = inner ++ rest → rest ≠ [] →
      (tree.isListed (child b.site (ofSegments (names ++ inner))) = true ↔
        tree.Listable b.site (names ++ inner)) := by
    rintro inner rest rfl hrest
    rw [← List.append_assoc] at hfile
    have hnode := h.above_node hrest hfile
    rw [List.append_assoc] at hnode
    exact h.isListed_child_iff hlocate hnode
  constructor
  · intro hpasses
    refine ⟨fun hbelow => ?_, fun inner rest heq hrest => ?_⟩
    · -- The output directory would be on the way to the file.
      have hprefix : site ++ names <+: tree.resolve b.dist :=
        (List.prefix_or_prefix_of_prefix hbelow (List.prefix_append _ below)).resolve_left hapart
      obtain ⟨inner, hinner⟩ := hprefix
      obtain ⟨rest, hrest⟩ := hbelow
      rw [← hinner, List.append_assoc] at hrest
      obtain rfl := List.append_cancel_left hrest
      have hne : rest ≠ [] := by
        rintro rfl
        rw [List.append_nil, hinner, hdist] at hfile
        cases hfile
      obtain ⟨-, hnil | hother⟩ := enters_iff.1 (hpasses inner rest rfl hne)
      · obtain ⟨rfl, rfl⟩ := List.append_eq_nil_iff.1 hnil
        exact hapart (by simp [← hinner])
      · exact hother (by rw [← List.append_assoc, hinner])
    · exact (hlisted inner rest heq hrest).1 (enters_iff.1 (hpasses inner rest heq hrest)).1
  · rintro ⟨houtside, hlistable⟩ inner rest rfl hrest
    have hentered := (hlisted inner rest rfl hrest).2 (hlistable inner rest rfl hrest)
    refine enters_iff.2 ⟨hentered, .inr fun heq => ?_⟩
    exact houtside ⟨rest, by simp [← heq]⟩

/-- A build visits the files of the site that are not below the output directory. -/
theorem mem_sourceFiles_iff (h : tree.Lawful)
    (hdist : tree.node? (tree.resolve b.dist) = some .directory)
    (hapart : ¬ tree.resolve b.dist <+: tree.resolve b.site) :
    rel ∈ b.sourceFiles tree ↔
      (∃ site, tree.locate b.site = .ok site) ∧ Found b tree rel := by
  unfold sourceFiles
  split
  next site hsite =>
    obtain rfl := FileTree.locate_eq_resolve h.cwd hsite
    rw [← List.append_nil (tree.resolve b.site)] at hapart
    rw [List.mem_map]
    constructor
    · rintro ⟨names, hnames, rfl⟩
      obtain ⟨hne, ⟨content, hfile⟩, hpasses⟩ := (FileTree.mem_filesBelow_iff h).1 hnames
      rw [← List.append_nil (tree.resolve b.site)] at hfile
      obtain ⟨houtside, hlistable⟩ := (passes_iff h hsite hdist hapart hfile).1 hpasses
      rw [List.append_nil] at hfile houtside
      exact ⟨⟨_, hsite⟩, names, rfl, hne, ⟨content, hfile⟩, houtside, hlistable⟩
    · rintro ⟨-, names, rfl, hne, ⟨content, hfile⟩, houtside, hlistable⟩
      refine ⟨names, (FileTree.mem_filesBelow_iff h).2 ⟨hne, ⟨content, hfile⟩, ?_⟩, rfl⟩
      rw [← List.append_nil (tree.resolve b.site)] at hfile houtside
      exact (passes_iff h hsite hdist hapart hfile).2 ⟨houtside, hlistable⟩
  next fault hsite =>
    constructor
    · exact fun hmem => absurd hmem List.not_mem_nil
    · rintro ⟨⟨site, hfound⟩, -⟩
      cases hsite.symm.trans hfound

/-- A site without directories. -/
theorem sourceFiles_of_flat {l : Location} (hsite : tree.locate b.site = .ok l)
    (hlisted : tree.isListed (child b.site []) = true) (hflat : tree.directoriesIn l = [])
    (hfiles : tree.filesIn l = names) : b.sourceFiles tree = names := by
  have henters : b.enters tree l [] = true := enters_iff.2 ⟨hlisted, .inl rfl⟩
  have hbelow : tree.filesBelow (b.enters tree l) l = names.map fun name => [name] := by
    rw [FileTree.filesBelow, FileTree.filesBelow.go, if_pos henters, hflat, hfiles]
    simp
  have hnames : ∀ name : Text, ofSegments [name] = name := fun name => by
    simp [ofSegments, Text.join, List.intercalate]
  simp [sourceFiles, hsite, hbelow, Function.comp_def, hnames]

end Build
end PageLoom
