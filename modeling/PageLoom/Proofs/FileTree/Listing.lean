import Mathlib.Data.List.Nodup
import Mathlib.Data.List.Perm.Subperm
import PageLoom.Proofs.FileTree

set_option autoImplicit false

/-! # Which files a listing holds

A listing of all files below a directory holds each of them once, except those below a directory
that is not entered. The bound on its depth is never felt, because above a node there are as many
other nodes as its location has names. -/

namespace PageLoom
namespace FileTree

variable {tree : FileTree} {directory l : Location} {enter : List Text → Bool} {n : FileNode}
  {name : Text} {names : List Text}

/-! ## One directory -/

theorem nameIn?_eq_some_iff : nameIn? directory l = some name ↔ l = directory ++ [name] := by
  unfold nameIn?
  constructor
  · intro h
    split at h
    next hin =>
      obtain ⟨start, rfl⟩ := List.getLast?_eq_some_iff.1 h
      rw [← hin.2, List.dropLast_concat]
    next => cases h
  · rintro rfl
    simp

theorem mem_namesIn_iff (h : tree.Lawful) (keep : FileNode → Bool) :
    name ∈ tree.namesIn directory keep ↔
      ∃ n, tree.node? (directory ++ [name]) = some n ∧ keep n = true := by
  rw [namesIn, Text.sort, (List.mergeSort_perm ..).mem_iff, List.mem_filterMap]
  constructor
  · rintro ⟨⟨l, n⟩, hmem, hname⟩
    obtain ⟨hkeep, hin⟩ := Option.ite_none_right_eq_some.1 hname
    obtain rfl := nameIn?_eq_some_iff.1 hin
    exact ⟨n, (h.mem_nodes_iff (by simp)).1 hmem, hkeep⟩
  · rintro ⟨n, hnode, hkeep⟩
    exact ⟨_, (h.mem_nodes_iff (by simp)).2 hnode,
      Option.ite_none_right_eq_some.2 ⟨hkeep, nameIn?_eq_some_iff.2 rfl⟩⟩

theorem nodup_namesIn (h : tree.Lawful) (keep : FileNode → Bool) :
    (tree.namesIn directory keep).Nodup := by
  rw [namesIn, Text.sort, (List.mergeSort_perm ..).nodup_iff]
  refine (List.pairwise_map.1 h.locations).filterMap _ fun m m' hne name hname name' hname' => ?_
  obtain ⟨-, hin⟩ := Option.ite_none_right_eq_some.1 hname
  obtain ⟨-, hin'⟩ := Option.ite_none_right_eq_some.1 hname'
  rintro rfl
  exact hne ((nameIn?_eq_some_iff.1 hin).trans (nameIn?_eq_some_iff.1 hin').symm)

/-- The name of a node, if it is a file directly in a directory. -/
def fileNameIn? (directory : Location) (m : Location × FileNode) : Option Text :=
  match m.2 with
  | .file _ => nameIn? directory m.1
  | .directory => none

/-- Names that are stored in order are listed as they are stored. -/
theorem filesIn_of_pairwise (hstored : tree.nodes.filterMap (fileNameIn? directory) = names)
    (hsorted : names.Pairwise fun a b => Text.le a b = true) : tree.filesIn directory = names := by
  rw [filesIn, namesIn, Text.sort, ← List.mergeSort_of_pairwise hsorted, ← hstored]
  congr 2
  funext ⟨l, n⟩
  cases n <;> rfl

theorem mem_filesIn_iff (h : tree.Lawful) :
    name ∈ tree.filesIn directory ↔
      ∃ content, tree.node? (directory ++ [name]) = some (.file content) := by
  rw [filesIn, mem_namesIn_iff h]
  constructor
  · rintro ⟨n, hnode, hkeep⟩
    cases n with
    | directory => cases hkeep
    | file content => exact ⟨content, hnode⟩
  · rintro ⟨content, hnode⟩
    exact ⟨_, hnode, rfl⟩

theorem mem_directoriesIn_iff (h : tree.Lawful) :
    name ∈ tree.directoriesIn directory ↔
      tree.node? (directory ++ [name]) = some .directory := by
  rw [directoriesIn, mem_namesIn_iff h]
  constructor
  · rintro ⟨n, hnode, hkeep⟩
    rw [hnode, of_decide_eq_true hkeep]
  · exact fun hnode => ⟨_, hnode, decide_eq_true rfl⟩

/-! ## All directories -/

/-- All directories on the way down to a name are entered, the first one included. -/
def Passes (enter : List Text → Bool) (names : List Text) : Prop :=
  ∀ inner rest, names = inner ++ rest → rest ≠ [] → enter inner = true

theorem passes_cons_iff :
    Passes enter (name :: names) ↔
      enter [] = true ∧ Passes (fun rest => enter (name :: rest)) names := by
  constructor
  · intro h
    refine ⟨h [] _ rfl (by simp), fun inner rest heq hrest => ?_⟩
    exact h (name :: inner) rest (by rw [heq]; rfl) hrest
  · rintro ⟨hfirst, hlater⟩ inner rest heq hrest
    cases inner with
    | nil => exact hfirst
    | cons first inner =>
        obtain ⟨rfl, rfl⟩ := List.cons.inj heq
        exact hlater inner rest rfl hrest

theorem mem_go_iff (h : tree.Lawful) {fuel : ℕ} :
    names ∈ filesBelow.go tree enter directory fuel ↔
      names ≠ [] ∧ names.length ≤ fuel ∧
        (∃ content, tree.node? (directory ++ names) = some (.file content)) ∧
        Passes enter names := by
  induction fuel generalizing enter directory names with
  | zero =>
      constructor
      · exact fun hmem => absurd hmem List.not_mem_nil
      · rintro ⟨hne, hlength, -⟩
        exact absurd (List.length_eq_zero_iff.1 (Nat.le_zero.1 hlength)) hne
  | succ fuel ih =>
      rw [filesBelow.go]
      cases names with
      | nil => split <;> simp
      | cons name rest =>
          rw [passes_cons_iff, List.append_cons directory name rest]
          cases hentered : enter [] with
          | false => simp
          | true =>
              rw [if_pos rfl, List.mem_append, List.mem_map, List.mem_flatMap]
              by_cases hrest : rest = []
              · -- A file of the directory itself.
                subst hrest
                have hnone : ∀ enter (d : Location), [] ∉ filesBelow.go tree enter d fuel :=
                  fun enter d hmem => (ih.1 hmem).1 rfl
                simp [mem_filesIn_iff h, hnone, Passes]
              · -- A file of one of its directories.
                constructor
                · rintro (⟨_, -, heq⟩ | ⟨_, -, hbelow⟩)
                  · exact absurd (List.cons.inj heq).2.symm hrest
                  · obtain ⟨inner, hinner, heq⟩ := List.mem_map.1 hbelow
                    obtain ⟨rfl, rfl⟩ := List.cons.inj heq
                    obtain ⟨-, hlength, hfile, hpasses⟩ := ih.1 hinner
                    exact ⟨by simp, Nat.succ_le_succ hlength, hfile, rfl, hpasses⟩
                · rintro ⟨-, hlength, ⟨content, hfile⟩, -, hpasses⟩
                  refine .inr ⟨name, ?_, List.mem_map.2 ⟨rest, ?_, rfl⟩⟩
                  · exact (mem_directoriesIn_iff h).2 (h.above_node hrest hfile)
                  · exact ih.2
                      ⟨hrest, Nat.le_of_succ_le_succ hlength, ⟨content, hfile⟩, hpasses⟩

/-- A listing by levels holds nothing twice: first names of one level, then what is further down,
    under names that are all different. -/
theorem nodup_levels (start : List Text) {own inner : List Text} {further : Text → List (List Text)}
    (hown : own.Nodup) (hinner : inner.Nodup) (hfurther : ∀ name, (further name).Nodup ∧
      ∀ names ∈ further name, ∃ rest, rest ≠ [] ∧ names = start ++ name :: rest) :
    (own.map (fun name => start ++ [name]) ++ inner.flatMap further).Nodup := by
  refine List.Nodup.append ?_ ?_ ?_
  · exact hown.map fun a b heq => (List.cons.inj (List.append_cancel_left heq)).1
  · refine List.nodup_flatMap.2 ⟨fun name _ => (hfurther name).1, ?_⟩
    refine hinner.imp fun hne names hleft hright => ?_
    obtain ⟨_, -, rfl⟩ := (hfurther _).2 names hleft
    obtain ⟨_, -, heq⟩ := (hfurther _).2 _ hright
    exact hne (List.cons.inj (List.append_cancel_left heq)).1
  · -- What is further down has more than one name.
    intro names hleft hright
    obtain ⟨name, -, rfl⟩ := List.mem_map.1 hleft
    obtain ⟨other, -, hbelow⟩ := List.mem_flatMap.1 hright
    obtain ⟨rest, hrest, heq⟩ := (hfurther other).2 _ hbelow
    exact hrest (List.cons.inj (List.append_cancel_left heq)).2.symm

theorem nodup_go (h : tree.Lawful) (enter : List Text → Bool) (directory : Location) (fuel : ℕ) :
    (filesBelow.go tree enter directory fuel).Nodup := by
  induction fuel generalizing enter directory with
  | zero => exact List.nodup_nil
  | succ fuel ih =>
      rw [filesBelow.go]
      split
      next =>
        refine nodup_levels [] (nodup_namesIn h _) (nodup_namesIn h _) fun name => ⟨?_, ?_⟩
        · exact (ih _ _).map fun a b heq => (List.cons.inj heq).2
        · intro names hnames
          obtain ⟨rest, hrest, rfl⟩ := List.mem_map.1 hnames
          exact ⟨rest, ((mem_go_iff h).1 hrest).1, rfl⟩
      next => exact List.nodup_nil

/-- A node has as many nodes above it and itself as its location has names. -/
theorem Lawful.length_le (h : tree.Lawful) (hnode : tree.node? l = some n) :
    l.length ≤ tree.nodes.length := by
  have hsub : (List.range l.length).map (fun i => l.take (i + 1)) ⊆ tree.nodes.map Prod.fst := by
    intro k hk
    obtain ⟨i, hi, rfl⟩ := List.mem_map.1 hk
    rw [List.mem_range] at hi
    have hl : l ≠ [] := List.ne_nil_of_length_pos (by omega)
    have hne : l.take (i + 1) ≠ [] := by simpa using hl
    have habove : ∃ m, tree.node? (l.take (i + 1)) = some m := by
      by_cases hlast : l.drop (i + 1) = []
      · rw [List.take_of_length_le (List.drop_eq_nil_iff.1 hlast)]
        exact ⟨n, hnode⟩
      · rw [← List.take_append_drop (i + 1) l] at hnode
        exact ⟨_, h.above_node hlast hnode⟩
    obtain ⟨m, hm⟩ := habove
    exact List.mem_map_of_mem ((h.mem_nodes_iff hne).2 hm)
  have hnodup : ((List.range l.length).map fun i => l.take (i + 1)).Nodup := by
    refine List.nodup_range.map_on fun i hi j hj heq => ?_
    have hlength := congrArg List.length heq
    rw [List.mem_range] at hi hj
    rw [List.length_take, List.length_take] at hlength
    omega
  simpa using (hnodup.subperm hsub).length_le

/-- **A listing holds every file below a directory**, unless it is below one that is not entered. -/
theorem mem_filesBelow_iff (h : tree.Lawful) :
    names ∈ tree.filesBelow enter directory ↔
      names ≠ [] ∧ (∃ content, tree.node? (directory ++ names) = some (.file content)) ∧
        Passes enter names := by
  rw [filesBelow, mem_go_iff h]
  refine and_congr_right fun _ => ⟨fun hmem => hmem.2, fun hmem => ⟨?_, hmem⟩⟩
  obtain ⟨⟨content, hnode⟩, -⟩ := hmem
  have hlength := h.length_le hnode
  rw [List.length_append] at hlength
  omega

/-- **A listing holds no file twice.** -/
theorem nodup_filesBelow (h : tree.Lawful) (enter : List Text → Bool) (directory : Location) :
    (tree.filesBelow enter directory).Nodup :=
  nodup_go h enter directory _

end FileTree
end PageLoom
