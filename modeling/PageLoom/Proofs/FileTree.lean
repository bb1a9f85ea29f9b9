import Mathlib.Data.List.Induction
import PageLoom.FileTree
import PageLoom.Proofs.Keyed
import PageLoom.Proofs.Result
import PageLoom.Proofs.SitePath

set_option autoImplicit false

/-! # What operations on files change

In a lawful tree every node stands in a directory, under a proper name. A path that can be followed
leads where its names lead (`locate_eq_resolve`), so what an operation changes is known from the
path alone: a file is written at one location, directories are only added, and everything else stays
(`Touches`), whether the operation succeeds or is refused halfway. -/

namespace PageLoom
namespace FileTree

open SitePath

variable {tree tree' : FileTree} {l k : Location} {n : FileNode} {path : Text} {content : Octets}

/-! ## Lawful trees -/

/-- Nodes have locations of their own, proper names, and a directory above them. -/
structure Lawful (tree : FileTree) : Prop where
  locations : (tree.nodes.map Prod.fst).Nodup
  root : [] ∉ tree.nodes.map Prod.fst
  proper : ∀ m ∈ tree.nodes, ∀ name ∈ m.1, Proper name
  parents : ∀ m ∈ tree.nodes, tree.node? m.1.dropLast = some .directory
  cwd : ∀ name ∈ tree.cwd, Proper name

instance (tree : FileTree) : Decidable tree.Lawful :=
  decidable_of_iff ((tree.nodes.map Prod.fst).Nodup ∧ [] ∉ tree.nodes.map Prod.fst ∧
      (∀ m ∈ tree.nodes, ∀ name ∈ m.1, Proper name) ∧
      (∀ m ∈ tree.nodes, tree.node? m.1.dropLast = some .directory) ∧
      ∀ name ∈ tree.cwd, Proper name)
    ⟨fun ⟨hlocations, hroot, hproper, hparents, hcwd⟩ =>
      ⟨hlocations, hroot, hproper, hparents, hcwd⟩,
      fun h => ⟨h.locations, h.root, h.proper, h.parents, h.cwd⟩⟩

theorem node?_eq_value? (hl : l ≠ []) : tree.node? l = Keyed.value? l tree.nodes := by
  rw [node?, if_neg hl]
  rfl

namespace Lawful

theorem mem_nodes_iff (h : tree.Lawful) (hl : l ≠ []) :
    (l, n) ∈ tree.nodes ↔ tree.node? l = some n := by
  rw [node?_eq_value? hl, Keyed.mem_iff_value? h.locations]

theorem proper_of_node (h : tree.Lawful) (hnode : tree.node? l = some n) :
    ∀ name ∈ l, Proper name := by
  by_cases hl : l = []
  · simp [hl]
  · exact h.proper _ ((h.mem_nodes_iff hl).2 hnode)

theorem parent (h : tree.Lawful) (hnode : tree.node? l = some n) :
    tree.node? l.dropLast = some .directory := by
  by_cases hl : l = []
  · rw [hl]
    rfl
  · exact h.parents _ ((h.mem_nodes_iff hl).2 hnode)

/-- Whatever stands above a node is a directory. -/
theorem above_node (h : tree.Lawful) {names : List Text} (hne : names ≠ [])
    (hnode : tree.node? (l ++ names) = some n) : tree.node? l = some .directory := by
  induction names using List.reverseRecOn generalizing n with
  | nil => exact absurd rfl hne
  | append_singleton names name ih =>
      have hparent := h.parent hnode
      rw [← List.append_assoc, List.dropLast_concat] at hparent
      by_cases hnames : names = []
      · rwa [hnames, List.append_nil] at hparent
      · exact ih hnames hparent

end Lawful

/-! ## Where paths lead -/

theorem cwdText_congr (h : tree'.cwd = tree.cwd) : tree'.cwdText = tree.cwdText := by
  rw [cwdText, cwdText, h]

/-- Where a path leads depends on where it begins and on nothing else there is. -/
theorem resolve_congr (h : tree'.cwd = tree.cwd) (path : Text) :
    tree'.resolve path = tree.resolve path := by
  rw [resolve, resolve, cwdText_congr h]

theorem resolve_eq (hcwd : ∀ name ∈ tree.cwd, Proper name) (path : Text) :
    tree.resolve path = (parts path).foldl descend (if isAbsolute path then [] else tree.cwd) :=
  components_eq hcwd path

theorem proper_resolve (hcwd : ∀ name ∈ tree.cwd, Proper name) (path : Text) :
    ∀ name ∈ tree.resolve path, Proper name := by
  rw [resolve_eq hcwd]
  refine proper_of_mem_foldl_descend ?_ path
  split
  · simp
  · exact hcwd

theorem resolve_child (hcwd : ∀ name ∈ tree.cwd, Proper name) {names : List Text}
    (hnames : ∀ name ∈ names, Proper name) (path : Text) :
    tree.resolve (child path (ofSegments names)) = tree.resolve path ++ names := by
  have hrelative := isAbsolute_ofSegments_of_proper hnames
  rw [resolve_eq hcwd, resolve_eq hcwd, parts_child hrelative, isAbsolute_child hrelative,
    List.foldl_append, parts_ofSegments_of_proper hnames, foldl_descend_of_proper hnames]

theorem resolve_tidy (hcwd : ∀ name ∈ tree.cwd, Proper name) (path : Text) :
    tree.resolve (tidy path) = tree.resolve path := by
  rw [resolve_eq hcwd, resolve_eq hcwd, parts_tidy, isAbsolute_tidy]

theorem permit_eq_ok_iff {access : FileAccess} {u : Unit} :
    tree.permit access l path = .ok u ↔ tree.refusal? access l = none := by
  unfold permit
  cases tree.refusal? access l <;> simp

theorem lookupFault?_eq_none_iff {name : Text} :
    tree.lookupFault? path l name = none ↔
      tree.refusal? .search l = none ∧ (Utf8.encode name).length ≤ longestName := by
  unfold lookupFault?
  cases tree.refusal? .search l <;> simp

theorem lookupFault?_congr (h : ∀ l, tree'.refusal? .search l = tree.refusal? .search l)
    (path : Text) (l : Location) (name : Text) :
    tree'.lookupFault? path l name = tree.lookupFault? path l name := by
  rw [lookupFault?, lookupFault?, h]

/-- One step of a walk. -/
theorem walk_cons (tree : FileTree) (path : Text) (l : Location) (name : Text) (rest : List Text) :
    tree.walk path l (name :: rest) =
      match tree.lookupFault? path l name with
      | some fault => .error fault
      | none =>
          if rest.isEmpty then .ok (descend l name)
          else match tree.node? (descend l name) with
            | some .directory => tree.walk path (descend l name) rest
            | some (.file _) => .error (.notDirectory path)
            | none => .error (.missing path) := rfl

/-- A walk goes on as long as names can be looked up and lead to directories. -/
theorem walk_cons_eq_ok_iff {name : Text} {rest : List Text} :
    tree.walk path l (name :: rest) = .ok k ↔
      tree.lookupFault? path l name = none ∧
        (rest = [] ∧ descend l name = k ∨
          rest ≠ [] ∧ tree.node? (descend l name) = some .directory ∧
            tree.walk path (descend l name) rest = .ok k) := by
  rw [walk_cons]
  cases tree.lookupFault? path l name with
  | some fault => simp
  | none =>
      cases rest with
      | nil => simp
      | cons other more =>
          cases hnode : tree.node? (descend l name) with
          | none => simp
          | some n => cases n <;> simp

theorem walk_eq {names : List Text} (h : tree.walk path l names = .ok k) :
    k = names.foldl descend l := by
  induction names generalizing l with
  | nil => exact (Except.ok.inj h).symm
  | cons name rest ih =>
      obtain ⟨-, ⟨rfl, hend⟩ | ⟨-, -, hrest⟩⟩ := walk_cons_eq_ok_iff.1 h
      · exact hend.symm
      · exact ih hrest

theorem locate_eq_ok_iff :
    tree.locate path = .ok l ↔ pathFault? path = none ∧
      tree.walk path (if isAbsolute path then [] else tree.cwd) (parts path) = .ok l := by
  rw [locate]
  cases pathFault? path <;> simp

/-- The faults of a path itself are those of the path as it is shown. -/
theorem pathFault?_tidy_eq_none_iff : pathFault? (tidy path) = none ↔ pathFault? path = none := by
  rw [pathFault?, pathFault?, tidy_tidy]
  split
  · simp
  · split <;> simp

/-- A path that can be followed leads where its names lead. -/
theorem locate_eq_resolve (hcwd : ∀ name ∈ tree.cwd, Proper name)
    (h : tree.locate path = .ok l) : l = tree.resolve path := by
  rw [resolve_eq hcwd]
  exact walk_eq (locate_eq_ok_iff.1 h).2

/-- With more directories, names lead to the same location. -/
theorem walk_of_directories {path' : Text} {names : List Text}
    (hrefusals : tree'.refusal? = tree.refusal?)
    (hkept : ∀ l, tree.node? l = some .directory → tree'.node? l = some .directory)
    (h : tree.walk path k names = .ok l) : tree'.walk path' k names = .ok l := by
  induction names generalizing k with
  | nil => exact h
  | cons name rest ih =>
      obtain ⟨hlookup, hgoes⟩ := walk_cons_eq_ok_iff.1 h
      rw [lookupFault?_eq_none_iff, ← hrefusals] at hlookup
      refine walk_cons_eq_ok_iff.2 ⟨lookupFault?_eq_none_iff.2 hlookup, hgoes.imp_right ?_⟩
      rintro ⟨hmore, hdirectory, hrest⟩
      exact ⟨hmore, hkept _ hdirectory, ih hrest⟩

theorem locate_of_directories (hcwd : tree'.cwd = tree.cwd)
    (hrefusals : tree'.refusal? = tree.refusal?)
    (hkept : ∀ l, tree.node? l = some .directory → tree'.node? l = some .directory)
    (h : tree.locate path = .ok l) : tree'.locate path = .ok l := by
  rw [locate_eq_ok_iff] at h ⊢
  rw [hcwd]
  exact ⟨h.1, walk_of_directories hrefusals hkept h.2⟩

/-- A path leads where it leads as it is shown. -/
theorem locate_tidy_eq_ok_iff : tree.locate (tidy path) = .ok l ↔ tree.locate path = .ok l := by
  rw [locate_eq_ok_iff, locate_eq_ok_iff, pathFault?_tidy_eq_none_iff, isAbsolute_tidy, parts_tidy]
  exact and_congr_right fun _ =>
    ⟨walk_of_directories rfl fun _ hl => hl, walk_of_directories rfl fun _ hl => hl⟩

/-! ## What a path names -/

theorem find_eq_some_iff :
    tree.find path = .ok (some n) ↔ ∃ l, tree.locate path = .ok l ∧ tree.node? l = some n := by
  rw [find]
  cases tree.locate path with
  | ok l => simp
  | error fault => cases hfault : fault.isAbsence <;> simp [hfault]

theorem isDirectory_eq_true_iff :
    tree.isDirectory path = .ok true ↔
      ∃ l, tree.locate path = .ok l ∧ tree.node? l = some .directory := by
  rw [← find_eq_some_iff, isDirectory, Result.map_eq_ok_iff]
  simp

theorem isFile_eq_true_iff :
    tree.isFile path = .ok true ↔ ∃ content, tree.find path = .ok (some (.file content)) := by
  rw [isFile, Result.map_eq_ok_iff]
  constructor
  · rintro ⟨found, hfound, hfile⟩
    split at hfile
    next content => exact ⟨content, hfound⟩
    next => cases hfile
  · rintro ⟨content, hfound⟩
    exact ⟨_, hfound, rfl⟩

/-- What is found stands where the path leads. -/
theorem node?_resolve_of_find (hcwd : ∀ name ∈ tree.cwd, Proper name)
    (h : tree.find path = .ok (some n)) : tree.node? (tree.resolve path) = some n := by
  obtain ⟨l, hlocate, hnode⟩ := find_eq_some_iff.1 h
  rwa [← locate_eq_resolve hcwd hlocate]

/-! ## Changes -/

/-- From one tree to the other, no file changes outside of some locations, and nothing is deleted;
    directories may be new. The system refuses what it refused. -/
structure Touches (locations : Location → Prop) (before after : FileTree) : Prop where
  cwd : after.cwd = before.cwd
  refusals : after.refusal? = before.refusal?
  room : after.room = before.room
  directories : ∀ l, before.node? l = some .directory → after.node? l = some .directory
  files : ∀ l, ¬ locations l → ∀ content,
    after.node? l = some (.file content) ↔ before.node? l = some (.file content)
  kept : ∀ l content, before.node? l = some (.file content) →
    ∃ content', after.node? l = some (.file content')
  lawful : before.Lawful → after.Lawful

namespace Touches

variable {locations locations' : Location → Prop} {before middle after : FileTree}

theorem refl (locations : Location → Prop) (tree : FileTree) : Touches locations tree tree :=
  ⟨rfl, rfl, rfl, fun _ h => h, fun _ _ _ => .rfl, fun _ content h => ⟨content, h⟩, fun h => h⟩

theorem trans (h : Touches locations before middle) (h' : Touches locations middle after) :
    Touches locations before after where
  cwd := h'.cwd.trans h.cwd
  refusals := h'.refusals.trans h.refusals
  room := h'.room.trans h.room
  directories l hl := h'.directories l (h.directories l hl)
  files l hl content := (h'.files l hl content).trans (h.files l hl content)
  kept l content hl := by
    obtain ⟨content', hmiddle⟩ := h.kept l content hl
    exact h'.kept l content' hmiddle
  lawful hlawful := h'.lawful (h.lawful hlawful)

theorem mono (h : Touches locations before after) (hsub : ∀ l, locations l → locations' l) :
    Touches locations' before after :=
  { h with files := fun l hl => h.files l fun hin => hl (hsub l hin) }

theorem resolve (h : Touches locations before after) (path : Text) :
    after.resolve path = before.resolve path :=
  resolve_congr h.cwd path

theorem locate (h : Touches locations before after) (hlocate : before.locate path = .ok l) :
    after.locate path = .ok l :=
  locate_of_directories h.cwd h.refusals h.directories hlocate

theorem isDirectory (h : Touches locations before after)
    (hdirectory : before.isDirectory path = .ok true) : after.isDirectory path = .ok true := by
  obtain ⟨l, hlocate, hnode⟩ := isDirectory_eq_true_iff.1 hdirectory
  exact isDirectory_eq_true_iff.2 ⟨l, h.locate hlocate, h.directories l hnode⟩

/-- A file outside of the locations touched is found as before. -/
theorem find (h : Touches locations before after) (hcwd : ∀ name ∈ before.cwd, Proper name)
    (hout : ¬ locations (before.resolve path))
    (hfind : before.find path = .ok (some (.file content))) :
    after.find path = .ok (some (.file content)) := by
  obtain ⟨l, hlocate, hnode⟩ := find_eq_some_iff.1 hfind
  rw [← locate_eq_resolve hcwd hlocate] at hout
  exact find_eq_some_iff.2 ⟨l, h.locate hlocate, (h.files l hout content).2 hnode⟩

end Touches

/-! ## Nodes that are put -/

theorem map_fst_putNode (l : Location) (n : FileNode) (nodes : List (Location × FileNode)) :
    (putNode l n nodes).map Prod.fst =
      if l ∈ nodes.map Prod.fst then nodes.map Prod.fst else nodes.map Prod.fst ++ [l] := by
  induction nodes with
  | nil => simp [putNode]
  | cons m rest ih =>
      by_cases hm : m.1 = l
      · simp [putNode, hm]
      · simp only [putNode, if_neg hm, List.map_cons, ih, List.mem_cons, Ne.symm hm, false_or]
        split <;> rfl

theorem mem_of_mem_putNode {m : Location × FileNode} {nodes : List (Location × FileNode)}
    (h : m ∈ putNode l n nodes) : m = (l, n) ∨ m ∈ nodes := by
  induction nodes with
  | nil => exact .inl (List.mem_singleton.1 h)
  | cons first rest ih =>
      rw [putNode] at h
      split at h
      next heq =>
        rcases List.mem_cons.1 h with rfl | hrest
        · exact .inl (by rw [heq])
        · exact .inr (List.mem_cons_of_mem _ hrest)
      next =>
        rcases List.mem_cons.1 h with rfl | hrest
        · exact .inr List.mem_cons_self
        · exact (ih hrest).imp_right (List.mem_cons_of_mem _)

theorem Lawful.put (h : tree.Lawful) (hl : l ≠ []) (hproper : ∀ name ∈ l, Proper name)
    (hparent : tree.node? l.dropLast = some .directory)
    (hkind : tree.node? l = some .directory → n = .directory) : (tree.put l n).Lawful where
  locations := by
    rw [FileTree.put, map_fst_putNode]
    split
    next => exact h.locations
    next hnew =>
      exact h.locations.append (List.nodup_singleton l) (by simpa using hnew)
  root := by
    rw [FileTree.put, map_fst_putNode]
    split
    · exact h.root
    · simp [h.root, hl.symm]
  proper m hm := by
    rcases mem_of_mem_putNode hm with rfl | hold
    · exact hproper
    · exact h.proper m hold
  parents m hm := by
    rcases mem_of_mem_putNode hm with rfl | hold
    · -- The new node does not stand above itself.
      have hne : l.dropLast ≠ l := fun heq => by
        have := congrArg List.length heq
        have := List.length_pos_of_ne_nil hl
        simp at *
        omega
      rw [node?_put_of_ne hne]
      exact hparent
    · have hdirectory := h.parents m hold
      -- A node that stood in a directory at this place still does.
      by_cases heq : m.1.dropLast = l
      · rw [heq, node?_put_self hl]
        exact congrArg some (hkind (heq ▸ hdirectory))
      · rw [node?_put_of_ne heq]
        exact hdirectory
  cwd := h.cwd

theorem ne_nil_of_node? (h : tree.node? l ≠ some .directory) : l ≠ [] := by
  rintro rfl
  exact h rfl

theorem touches_put_directory (hfree : tree.node? l = none)
    (hparent : tree.node? l.dropLast = some .directory)
    (hproper : tree.Lawful → ∀ name ∈ l, Proper name) :
    Touches (fun _ => False) tree (tree.put l .directory) := by
  have hl : l ≠ [] := ne_nil_of_node? (by rw [hfree]; exact nofun)
  have hfound : ∀ k m, tree.node? k = some m → (tree.put l .directory).node? k = some m := by
    intro k m hk
    have hne : k ≠ l := by
      rintro rfl
      cases hfree.symm.trans hk
    rw [node?_put_of_ne hne, hk]
  refine ⟨rfl, rfl, rfl, fun k hk => hfound k _ hk, fun k _ content => ⟨fun hk => ?_, hfound k _⟩,
    fun k content hk => ⟨content, hfound k _ hk⟩, fun hlawful =>
      hlawful.put hl (hproper hlawful) hparent fun _ => rfl⟩
  by_cases hkl : k = l
  · rw [hkl, node?_put_self hl] at hk
    cases hk
  · rwa [node?_put_of_ne hkl] at hk

theorem touches_put_file (hfile : tree.node? l ≠ some .directory)
    (hparent : tree.node? l.dropLast = some .directory)
    (hproper : tree.Lawful → ∀ name ∈ l, Proper name) (content : Octets) :
    Touches (· = l) tree (tree.put l (.file content)) := by
  have hl := ne_nil_of_node? hfile
  refine ⟨rfl, rfl, rfl, fun k hk => ?_, fun k hk c => ?_, fun k c hk => ?_, fun hlawful =>
    hlawful.put hl (hproper hlawful) hparent fun h => absurd h hfile⟩
  · have hne : k ≠ l := by
      rintro rfl
      exact hfile hk
    rwa [node?_put_of_ne hne]
  · rw [node?_put_of_ne hk]
  · by_cases hkl : k = l
    · exact ⟨content, hkl ▸ node?_put_self hl tree _⟩
    · exact ⟨c, (node?_put_of_ne hkl tree _).trans hk⟩

/-! ## Making directories -/

theorem proper_of_locate (h : tree.locate path = .ok l) (hlawful : tree.Lawful) :
    ∀ name ∈ l, Proper name := by
  rw [locate_eq_resolve hlawful.cwd h]
  exact proper_resolve hlawful.cwd path

theorem requireAbove_eq_ok_iff {u : Unit} :
    tree.requireAbove l path = .ok u ↔ tree.node? l.dropLast = some .directory := by
  unfold requireAbove
  cases tree.node? l.dropLast with
  | none => simp [Result.throw_eq]
  | some n => cases n <;> simp [Result.throw_eq, Result.pure_eq]

theorem makeDirectory_eq_ok_iff :
    tree.makeDirectory path = .ok tree' ↔
      ∃ l, tree.locate path = .ok l ∧ tree.node? l = none ∧
        tree.node? l.dropLast = some .directory ∧ tree.refusal? .make l = none ∧
        tree' = tree.put l .directory := by
  rw [makeDirectory, Result.bind_eq_ok_iff]
  refine exists_congr fun l => and_congr_right fun _ => ?_
  cases hnode : tree.node? l with
  | some n => simp [Result.throw_eq, bind, Except.bind]
  | none =>
      simp only [Option.isSome_none, Bool.false_eq_true, if_false, Result.pure_eq, true_and,
        Result.bind_eq_ok_iff, requireAbove_eq_ok_iff, permit_eq_ok_iff, Except.ok.injEq]
      exact ⟨fun ⟨_, hparent, _, hmake, hput⟩ => ⟨hparent, hmake, hput.symm⟩,
        fun ⟨hparent, hmake, hput⟩ => ⟨(), hparent, (), hmake, hput.symm⟩⟩

/-- A directory that is made is there, and nothing else is new. -/
theorem touches_makeDirectory (h : tree.makeDirectory path = .ok tree') :
    Touches (fun _ => False) tree tree' ∧ tree'.isDirectory path = .ok true := by
  obtain ⟨l, hlocate, hfree, hparent, -, rfl⟩ := makeDirectory_eq_ok_iff.1 h
  have htouches := touches_put_directory hfree hparent (proper_of_locate hlocate)
  have hl : l ≠ [] := ne_nil_of_node? (by rw [hfree]; exact nofun)
  exact ⟨htouches, isDirectory_eq_true_iff.2
    ⟨l, htouches.locate hlocate, node?_put_self hl tree _⟩⟩

/-- Making directories adds directories only, also when it fails halfway; when it succeeds, the
    directory is there. -/
theorem touches_makeDirectories (tree : FileTree) (path : Text) :
    Touches (fun _ => False) tree (tree.makeDirectories path).1 ∧
      ((tree.makeDirectories path).2 = .ok () →
        (tree.makeDirectories path).1.isDirectory path = .ok true) := by
  suffices hgo : ∀ (fuel : ℕ) (tree : FileTree) (path : Text),
      Touches (fun _ => False) tree (makeDirectories.go tree path fuel).1 ∧
        ((makeDirectories.go tree path fuel).2 = .ok () →
          (makeDirectories.go tree path fuel).1.isDirectory path = .ok true) from
    hgo _ tree path
  -- A failed attempt counts as done only when the directory is there.
  have hunless : ∀ (tree : FileTree) (path : Text) (fault : FileFault),
      (tree.unlessThere path fault).2 = .ok () → tree.isDirectory path = .ok true := by
    intro tree path fault hok
    rw [unlessThere] at hok
    dsimp only at hok
    split at hok
    next hthere => exact hthere
    next => cases hok
    next => cases hok
  intro fuel
  induction fuel with
  | zero => exact fun tree path => ⟨.refl _ tree, nofun⟩
  | succ fuel ih =>
      intro tree path
      rw [makeDirectories.go]
      split
      next made hmade =>
        exact ⟨(touches_makeDirectory hmade).1, fun _ => (touches_makeDirectory hmade).2⟩
      next =>
        split
        next => exact ⟨.refl _ tree, nofun⟩
        next =>
          -- What was made above the path stays, however the rest ends.
          have habove := ih tree (above path)
          split
          next partly fault hfail =>
            rw [hfail] at habove
            exact ⟨habove.1, nofun⟩
          next partly hdone =>
            rw [hdone] at habove
            split
            next made hmade =>
              have hlast := touches_makeDirectory hmade
              exact ⟨habove.1.trans hlast.1, fun _ => hlast.2⟩
            next => exact ⟨habove.1, nofun⟩
            next fault _ _ => exact ⟨habove.1, hunless partly path fault⟩
      next fault _ _ => exact ⟨.refl _ tree, hunless tree path fault⟩

/-! ## Reading and writing files -/

theorem read_eq_ok_iff :
    tree.read path = .ok content ↔
      ∃ l, tree.locate path = .ok l ∧ tree.node? l = some (.file content) ∧
        tree.refusal? .read l = none := by
  rw [read, Result.bind_eq_ok_iff]
  refine exists_congr fun l => and_congr_right fun _ => ?_
  cases hnode : tree.node? l with
  | none => simp [Result.throw_eq]
  | some n =>
      simp only [Result.bind_eq_ok_iff, permit_eq_ok_iff]
      cases n <;> simp [Result.throw_eq, Result.pure_eq, and_comm]

/-- What is read is found. -/
theorem find_of_read (h : tree.read path = .ok content) :
    tree.find path = .ok (some (.file content)) := by
  obtain ⟨l, hlocate, hnode, -⟩ := read_eq_ok_iff.1 h
  exact find_eq_some_iff.2 ⟨l, hlocate, hnode⟩

theorem read_tidy_eq_ok_iff :
    tree.read (tidy path) = .ok content ↔ tree.read path = .ok content := by
  simp only [read_eq_ok_iff, locate_tidy_eq_ok_iff]

theorem walk_ne_nullCharacter {other : Text} {names : List Text} :
    tree.walk path l names ≠ .error (.nullCharacter other) := by
  induction names generalizing l with
  | nil => exact nofun
  | cons name rest ih =>
      have hlookup : tree.lookupFault? path l name ≠ some (.nullCharacter other) := by
        unfold lookupFault?
        cases tree.refusal? .search l with
        | some r => simp
        | none => dsimp only; split <;> simp
      rw [walk_cons]
      split
      next fault hfault =>
        rintro ⟨⟩
        exact hlookup hfault
      next =>
        split
        next => exact nofun
        next =>
          split
          next => exact ih
          next => exact nofun
          next => exact nofun

/-- Reading fails so just for the paths that hold a null character. -/
theorem read_eq_nullCharacter_iff :
    (∃ other, tree.read path = .error (.nullCharacter other)) ↔
      (tidy path).contains '\u0000' = true := by
  constructor
  · rintro ⟨other, hread⟩
    rw [read, Result.bind_eq_error_iff] at hread
    rcases hread with hlocate | ⟨l, -, hread⟩
    · rw [locate] at hlocate
      split at hlocate
      next fault hfault =>
        obtain rfl := Except.error.inj hlocate
        rw [pathFault?] at hfault
        split at hfault
        next hnull => exact hnull
        next => split at hfault <;> cases hfault
      next => exact absurd hlocate walk_ne_nullCharacter
    · split at hread
      next => cases hread
      next n _ =>
        rw [Result.bind_eq_error_iff, permit] at hread
        cases hrefusal : tree.refusal? .read l <;> cases n <;>
          simp [hrefusal, Result.throw_eq, Result.pure_eq] at hread
  · intro hnull
    refine ⟨path, ?_⟩
    rw [read, locate, pathFault?, if_pos hnull]
    rfl

/-- A file outside of the locations touched is read as before. -/
theorem Touches.read {locations : Location → Prop} {before after : FileTree}
    (h : Touches locations before after) (hcwd : ∀ name ∈ before.cwd, Proper name)
    (hout : ¬ locations (before.resolve path)) (hread : before.read path = .ok content) :
    after.read path = .ok content := by
  obtain ⟨l, hlocate, hnode, hpermit⟩ := read_eq_ok_iff.1 hread
  rw [← locate_eq_resolve hcwd hlocate] at hout
  refine read_eq_ok_iff.2 ⟨l, h.locate hlocate, (h.files l hout content).2 hnode, ?_⟩
  rw [h.refusals]
  exact hpermit

theorem openFile_eq_ok_iff :
    tree.openFile path = .ok l ↔
      tree.locate path = .ok l ∧ tree.node? l ≠ some .directory ∧
        tree.node? l.dropLast = some .directory ∧ tree.refusal? .write l = none := by
  rw [openFile, Result.bind_eq_ok_iff]
  constructor
  · rintro ⟨k, hlocate, hopen⟩
    split at hopen
    next => cases hopen
    next hfile =>
      simp only [Result.pure_eq, Result.bind_eq_ok_iff, requireAbove_eq_ok_iff, permit_eq_ok_iff,
        Except.ok.injEq] at hopen
      obtain ⟨_, hparent, _, hwrite, rfl⟩ := hopen
      exact ⟨hlocate, hfile, hparent, hwrite⟩
  · rintro ⟨hlocate, hfile, hparent, hwrite⟩
    refine ⟨l, hlocate, ?_⟩
    rw [if_neg hfile]
    simp only [Result.pure_eq, Result.bind_eq_ok_iff, requireAbove_eq_ok_iff, permit_eq_ok_iff]
    exact ⟨(), hparent, (), hwrite, trivial⟩

theorem write_eq_ok_iff :
    tree.write path content = (tree', .ok ()) ↔
      ∃ l, tree.openFile path = .ok l ∧ tree.refusal? .fill l = none ∧
        tree' = tree.put l (.file content) := by
  rw [write]
  cases tree.openFile path with
  | error fault => simp
  | ok l =>
      cases hfill : tree.refusal? .fill l <;> simp [permit, hfill, eq_comm]

/-- Whether a file is written or its content refused, no other file changes. -/
theorem touches_write (hcwd : ∀ name ∈ tree.cwd, Proper name) (path : Text) (content : Octets) :
    Touches (· = tree.resolve path) tree (tree.write path content).1 := by
  rw [write]
  cases hopen : tree.openFile path with
  | error fault => exact .refl _ tree
  | ok l =>
      obtain ⟨hlocate, hfile, hparent, -⟩ := openFile_eq_ok_iff.1 hopen
      have hput := touches_put_file hfile hparent (proper_of_locate hlocate)
      rw [← locate_eq_resolve hcwd hlocate]
      dsimp only
      split
      next => exact hput content
      next => exact hput _

/-- A file that is written is there. -/
theorem find_of_write (h : tree.write path content = (tree', .ok ())) :
    tree'.find path = .ok (some (.file content)) := by
  obtain ⟨l, hopen, -, rfl⟩ := write_eq_ok_iff.1 h
  obtain ⟨hlocate, hfile, hparent, -⟩ := openFile_eq_ok_iff.1 hopen
  have htouches := touches_put_file hfile hparent (proper_of_locate hlocate) content
  exact find_eq_some_iff.2
    ⟨l, htouches.locate hlocate, node?_put_self (ne_nil_of_node? hfile) tree _⟩

theorem touches_copy (hcwd : ∀ name ∈ tree.cwd, Proper name) (source target : Text) :
    Touches (· = tree.resolve target) tree (tree.copy source target).1 := by
  rw [copy]
  split
  next => exact .refl _ tree
  next =>
    split
    next => exact .refl _ tree
    next content _ => exact touches_write hcwd target content

theorem copy_eq_ok_iff {source target : Text} :
    tree.copy source target = (tree', .ok ()) ↔ tree.isSame source target = false ∧
      ∃ content, tree.read source = .ok content ∧
        tree.write target content = (tree', .ok ()) := by
  rw [copy]
  cases tree.isSame source target with
  | true => simp
  | false => cases tree.read source <;> simp

end FileTree
end PageLoom
