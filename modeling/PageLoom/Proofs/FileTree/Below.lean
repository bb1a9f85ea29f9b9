import PageLoom.Proofs.FileTree

set_option autoImplicit false

/-! # Paths below a directory

A path that goes on from a directory is walked from there, and where something stands at its end,
it is found unless a name on the way cannot be looked up. So what is below a directory is found and
listed alike in trees that differ elsewhere (`Touches.file_child_iff`, `Touches.listable_iff`). -/

namespace PageLoom
namespace FileTree

open SitePath

variable {tree tree' : FileTree} {l k : Location} {n : FileNode} {path : Text} {names : List Text}
  {content : Octets}

/-! ## What is below a directory -/

/-- Further names are walked from the directory where the first ones end. -/
theorem walk_append {path' : Text} {start : List Text} (h : tree.walk path l start = .ok k)
    (hdirectory : names ≠ [] → tree.node? k = some .directory) :
    tree.walk path' l (start ++ names) = tree.walk path' k names := by
  induction start generalizing l with
  | nil =>
      obtain rfl := Except.ok.inj h
      rfl
  | cons name rest ih =>
      obtain ⟨hlookup, hgoes⟩ := walk_cons_eq_ok_iff.1 h
      have hlookup' : tree.lookupFault? path' l name = none :=
        lookupFault?_eq_none_iff.2 (lookupFault?_eq_none_iff.1 hlookup)
      rw [List.cons_append, walk_cons, hlookup']
      dsimp only
      rcases hgoes with ⟨rfl, rfl⟩ | ⟨hmore, hnext, hrest⟩
      · cases names with
        | nil => rfl
        | cons other more =>
            rw [hdirectory (List.cons_ne_nil _ _)]
            rfl
      · rw [if_neg (by simp [hmore]), hnext]
        exact ih hrest

/-- A path to something below a directory is walked from there. -/
theorem Lawful.locate_child (h : tree.Lawful) (hlocate : tree.locate path = .ok l)
    (hnode : tree.node? (l ++ names) = some n) :
    tree.locate (child path (ofSegments names)) =
      match pathFault? (child path (ofSegments names)) with
      | some fault => .error fault
      | none => tree.walk (child path (ofSegments names)) l names := by
  have hproper : ∀ name ∈ names, Proper name :=
    fun name hname => h.proper_of_node hnode name (List.mem_append_right _ hname)
  have hrelative := isAbsolute_ofSegments_of_proper hproper
  rewrite [locate, parts_child hrelative, isAbsolute_child hrelative,
    parts_ofSegments_of_proper hproper,
    walk_append (locate_eq_ok_iff.1 hlocate).2 fun hne => h.above_node hne hnode]
  rfl

/-- Names that lead to something in two trees are walked alike in both. -/
theorem Lawful.walk_congr {m : FileNode} (h : tree.Lawful) (h' : tree'.Lawful)
    (hrefusals : tree'.refusal? = tree.refusal?) (hnode : tree.node? (l ++ names) = some n)
    (hnode' : tree'.node? (l ++ names) = some m) :
    tree'.walk path l names = tree.walk path l names := by
  induction names generalizing l with
  | nil => rfl
  | cons name rest ih =>
      have hdescend : descend l name = l ++ [name] :=
        if_neg (h.proper_of_node hnode name (by simp)).ne_dots
      rw [walk_cons, walk_cons, lookupFault?_congr fun l => congrFun (congrFun hrefusals .search) l,
        hdescend]
      split
      next => rfl
      next =>
        split
        next => rfl
        next hmore =>
          rw [List.append_cons] at hnode hnode'
          have hne : rest ≠ [] := by simpa using hmore
          rw [h.above_node hne hnode, h'.above_node hne hnode']
          exact ih hnode hnode'

/-- A path below a directory leads alike in two trees that both have something there. -/
theorem Lawful.locate_child_congr {m : FileNode} (h : tree.Lawful) (h' : tree'.Lawful)
    (hrefusals : tree'.refusal? = tree.refusal?) (hlocate : tree.locate path = .ok l)
    (hlocate' : tree'.locate path = .ok l) (hnode : tree.node? (l ++ names) = some n)
    (hnode' : tree'.node? (l ++ names) = some m) :
    tree'.locate (child path (ofSegments names)) = tree.locate (child path (ofSegments names)) := by
  rw [h.locate_child hlocate hnode, h'.locate_child hlocate' hnode',
    h.walk_congr h' hrefusals hnode hnode']

namespace Touches

variable {locations : Location → Prop} (h : Touches locations tree tree') (hlawful : tree.Lawful)

include h hlawful

/-- What is there below a directory is still there, and its path leads there or fails as before. -/
theorem locate_child (hlocate : tree.locate path = .ok l)
    (hnode : tree.node? (l ++ names) = some n) :
    tree'.locate (child path (ofSegments names)) = tree.locate (child path (ofSegments names)) := by
  have hthere : ∃ m, tree'.node? (l ++ names) = some m := by
    cases n with
    | directory => exact ⟨_, h.directories _ hnode⟩
    | file content =>
        obtain ⟨content', hnode'⟩ := h.kept _ content hnode
        exact ⟨_, hnode'⟩
  obtain ⟨m, hnode'⟩ := hthere
  exact hlawful.locate_child_congr (h.lawful hlawful) h.refusals hlocate (h.locate hlocate) hnode
    hnode'

/-- Outside of what is touched, a path below a directory leads to the same files. -/
theorem file_child_iff (hproper : ∀ name ∈ names, Proper name) (hlocate : tree.locate path = .ok l)
    (hout : ¬ locations (tree.resolve path ++ names)) :
    tree'.locate (child path (ofSegments names)) = .ok k ∧ tree'.node? k = some (.file content) ↔
      tree.locate (child path (ofSegments names)) = .ok k ∧
        tree.node? k = some (.file content) := by
  have hplace := resolve_child hlawful.cwd hproper path
  constructor
  · rintro ⟨hlocate', hnode'⟩
    -- What is there afterwards was there before, where the path already led.
    obtain rfl := locate_eq_resolve (h.lawful hlawful).cwd hlocate'
    rw [h.resolve, hplace] at hnode' hlocate' ⊢
    have hnode := (h.files _ hout content).1 hnode'
    rw [← locate_eq_resolve hlawful.cwd hlocate] at hnode
    rw [← h.locate_child hlawful hlocate hnode]
    rw [locate_eq_resolve hlawful.cwd hlocate] at hnode
    exact ⟨hlocate', hnode⟩
  · rintro ⟨hlocate', hnode⟩
    refine ⟨h.locate hlocate', (h.files k ?_ content).2 hnode⟩
    rwa [locate_eq_resolve hlawful.cwd hlocate', hplace]

theorem read_child_iff (hproper : ∀ name ∈ names, Proper name) (hlocate : tree.locate path = .ok l)
    (hout : ¬ locations (tree.resolve path ++ names)) :
    tree'.read (child path (ofSegments names)) = .ok content ↔
      tree.read (child path (ofSegments names)) = .ok content := by
  simp only [read_eq_ok_iff, ← and_assoc, h.refusals,
    h.file_child_iff hlawful hproper hlocate hout]

end Touches

/-! ## Listing a directory -/

/-- The walk along names ends wherever something stands there, as long as the names can be looked
    up. -/
theorem Lawful.walk_eq_ok_iff (h : tree.Lawful) (hnode : tree.node? (l ++ names) = some n)
    (path : Text) :
    tree.walk path l names = .ok (l ++ names) ↔
      ∀ inner name rest, names = inner ++ name :: rest →
        tree.lookupFault? path (l ++ inner) name = none := by
  induction names generalizing l with
  | nil =>
      rw [List.append_nil]
      exact ⟨fun _ => by simp, fun _ => rfl⟩
  | cons first more ih =>
      have hfirst : descend l first = l ++ [first] :=
        if_neg (h.proper_of_node hnode first (by simp)).ne_dots
      rw [List.append_cons] at hnode ⊢
      have hmore : more = [] ∧ descend l first = l ++ [first] ++ more ∨
          more ≠ [] ∧ tree.node? (descend l first) = some .directory ∧
            tree.walk path (descend l first) more = .ok (l ++ [first] ++ more) ↔
          ∀ inner name rest, more = inner ++ name :: rest →
            tree.lookupFault? path (l ++ [first] ++ inner) name = none := by
        rw [hfirst, ← ih hnode]
        by_cases hne : more = []
        · subst hne
          simp [walk]
        · simp [hne, h.above_node hne hnode]
      rw [walk_cons_eq_ok_iff, hmore]
      constructor
      · rintro ⟨hlookup, hlater⟩ inner name rest heq
        cases inner with
        | nil =>
            obtain ⟨rfl, -⟩ := List.cons.inj heq
            rwa [List.append_nil]
        | cons other inner =>
            obtain ⟨rfl, hrest⟩ := List.cons.inj heq
            rw [List.append_cons]
            exact hlater inner name rest hrest
      · intro hall
        refine ⟨by simpa using hall [] first more rfl, fun inner name rest heq => ?_⟩
        have hlookup := hall (first :: inner) name rest (by rw [heq]; rfl)
        rwa [List.append_cons] at hlookup

/-- Nothing keeps the directory that is reached by some names below a path from being listed,
    should it be there: nothing is wrong with its path, the names on the way can be looked up, and
    its own names may be listed. -/
structure Listable (tree : FileTree) (path : Text) (names : List Text) : Prop where
  sound : pathFault? (child path (ofSegments names)) = none
  lookups : ∀ inner name rest, names = inner ++ name :: rest →
    tree.refusal? .search (tree.resolve path ++ inner) = none ∧
      (Utf8.encode name).length ≤ longestName
  listed : tree.refusal? .list (tree.resolve path ++ names) = none

/-- What can be listed is a matter of what the system refuses, not of what is there. -/
theorem Touches.listable_iff {locations : Location → Prop} (h : Touches locations tree tree') :
    tree'.Listable path names ↔ tree.Listable path names := by
  constructor
  · rintro ⟨hpath, hlookups, hlisted⟩
    rw [h.refusals, h.resolve] at hlookups hlisted
    exact ⟨hpath, hlookups, hlisted⟩
  · rintro ⟨hpath, hlookups, hlisted⟩
    rw [← h.refusals, ← h.resolve] at hlookups hlisted
    exact ⟨hpath, hlookups, hlisted⟩

/-- A directory below another one is listed if nothing keeps it from that. -/
theorem Lawful.isListed_child_iff (h : tree.Lawful) (hlocate : tree.locate path = .ok l)
    (hnode : tree.node? (l ++ names) = some n) :
    tree.isListed (child path (ofSegments names)) = true ↔ tree.Listable path names := by
  have hplace : tree.resolve path = l := (locate_eq_resolve h.cwd hlocate).symm
  have hwalk : ∀ k, tree.walk (child path (ofSegments names)) l names = .ok k → k = l ++ names := by
    intro k hk
    rw [walk_eq hk, foldl_descend_of_proper fun name hname =>
      h.proper_of_node hnode name (List.mem_append_right _ hname)]
  have hlookups := h.walk_eq_ok_iff hnode (child path (ofSegments names))
  simp only [lookupFault?_eq_none_iff] at hlookups
  rw [isListed, h.locate_child hlocate hnode]
  constructor
  · intro hlisted
    split at hlisted
    next k hfound =>
      split at hfound
      next => cases hfound
      next hpath =>
        obtain rfl := hwalk k hfound
        exact ⟨hpath, hplace ▸ hlookups.1 hfound, by rw [hplace]; simpa using hlisted⟩
    next => cases hlisted
  · rintro ⟨hpath, hsteps, hlisted⟩
    rw [hplace] at hsteps hlisted
    simp [hpath, hlookups.2 hsteps, hlisted]

end FileTree
end PageLoom
