import PageLoom.Proofs.FileTree

set_option autoImplicit false

/-! # Which directories are made

Making a directory makes what is missing above it, too. What is new is where a beginning of the
path's names leads, whether or not all of them could be made (`onTheWay_of_makeDirectories`). -/

namespace PageLoom

namespace SitePath

/-- The path one name up has all names but the last, from the same root. -/
theorem parts_above (p : Text) : parts (FileTree.above p) = (parts p).dropLast := by
  have hnames : ∀ name ∈ (parts p).dropLast, name ≠ [] ∧ '/' ∉ name ∧ name ≠ ['.'] :=
    fun name hname => of_mem_parts (List.dropLast_subset _ hname)
  have hslash : ∀ t : Text, parts ('/' :: t) = parts t := fun t => parts_append_slash [] t
  rw [FileTree.above, parts_tidy]
  rcases root_cases p with ⟨-, hroot⟩ | ⟨-, hroot | hroot⟩ <;> rw [hroot]
  · exact parts_ofSegments hnames
  · exact (hslash _).trans (parts_ofSegments hnames)
  · exact (hslash _).trans ((hslash _).trans (parts_ofSegments hnames))

theorem isAbsolute_above (p : Text) : isAbsolute (FileTree.above p) = isAbsolute p := by
  rw [FileTree.above, isAbsolute_tidy]
  rcases root_cases p with ⟨hp, hroot⟩ | ⟨hp, hroot | hroot⟩ <;> rw [hroot, hp]
  · exact isAbsolute_ofSegments fun name hname =>
      have hpart := of_mem_parts (List.dropLast_subset _ hname)
      ⟨hpart.1, hpart.2.1⟩
  · rfl
  · rfl

end SitePath

namespace FileTree

open SitePath

variable {tree tree' : FileTree} {l : Location} {path : Text}

/-- A location on the way of a path: a beginning of the path's names leads there. -/
def OnTheWay (tree : FileTree) (path : Text) (l : Location) : Prop :=
  ∃ names, names <+: parts path ∧
    l = names.foldl descend (if isAbsolute path then [] else tree.cwd)

/-- What is on the way of the path one name up is on the way. -/
theorem OnTheWay.of_above (h : OnTheWay tree (above path) l) : OnTheWay tree path l := by
  obtain ⟨names, hnames, hl⟩ := h
  rw [parts_above] at hnames
  rw [isAbsolute_above] at hl
  exact ⟨names, hnames.trans (List.dropLast_prefix _), hl⟩

theorem OnTheWay.of_cwd (hcwd : tree'.cwd = tree.cwd) (h : OnTheWay tree' path l) :
    OnTheWay tree path l := by
  rwa [OnTheWay, hcwd] at h

/-- A directory that is made is at the end of its path. -/
theorem onTheWay_of_makeDirectory (h : tree.makeDirectory path = .ok tree')
    (hl : tree'.node? l = some .directory) :
    tree.node? l = some .directory ∨ OnTheWay tree path l := by
  obtain ⟨k, hlocate, -, -, -, rfl⟩ := makeDirectory_eq_ok_iff.1 h
  by_cases hlk : l = k
  · exact .inr ⟨parts path, List.prefix_rfl, hlk.trans (walk_eq (locate_eq_ok_iff.1 hlocate).2)⟩
  · rw [node?_put_of_ne hlk] at hl
    exact .inl hl

/-- **What is made is on the way**, also when the making fails halfway. -/
theorem onTheWay_of_makeDirectories
    (hl : (tree.makeDirectories path).1.node? l = some .directory) :
    tree.node? l = some .directory ∨ OnTheWay tree path l := by
  suffices hgo : ∀ (fuel : ℕ) (tree : FileTree) (path : Text),
      (makeDirectories.go tree path fuel).1.cwd = tree.cwd ∧
        ((makeDirectories.go tree path fuel).1.node? l = some .directory →
          tree.node? l = some .directory ∨ OnTheWay tree path l) from
    (hgo _ tree path).2 hl
  intro fuel
  induction fuel with
  | zero => exact fun tree path => ⟨rfl, .inl⟩
  | succ fuel ih =>
      intro tree path
      rw [makeDirectories.go]
      split
      next made hmade =>
        exact ⟨(touches_makeDirectory hmade).1.cwd, onTheWay_of_makeDirectory hmade⟩
      next =>
        split
        next => exact ⟨rfl, .inl⟩
        next =>
          obtain ⟨hcwd, habove⟩ := ih tree (above path)
          have hpartly : (makeDirectories.go tree (above path) fuel).1.node? l = some .directory →
              tree.node? l = some .directory ∨ OnTheWay tree path l :=
            fun h => (habove h).imp_right OnTheWay.of_above
          split
          next partly fault hfail =>
            rw [hfail] at hcwd hpartly
            exact ⟨hcwd, hpartly⟩
          next partly hdone =>
            rw [hdone] at hcwd hpartly
            split
            next made hmade =>
              refine ⟨(touches_makeDirectory hmade).1.cwd.trans hcwd, fun h => ?_⟩
              rcases onTheWay_of_makeDirectory hmade h with hthere | hnew
              · exact hpartly hthere
              · exact .inr (hnew.of_cwd hcwd)
            next => exact ⟨hcwd, hpartly⟩
            next => exact ⟨hcwd, hpartly⟩
      next => exact ⟨rfl, .inl⟩

/-- Writing a file makes no directory. -/
theorem directory_of_write {content : Octets} (h : tree.write path content = (tree', .ok ()))
    (hl : tree'.node? l = some .directory) : tree.node? l = some .directory := by
  obtain ⟨k, hopen, -, rfl⟩ := write_eq_ok_iff.1 h
  obtain ⟨-, hfile, -, -⟩ := openFile_eq_ok_iff.1 hopen
  by_cases hlk : l = k
  · rw [hlk, node?_put_self (ne_nil_of_node? hfile)] at hl
    cases hl
  · rwa [node?_put_of_ne hlk] at hl

end FileTree
end PageLoom
