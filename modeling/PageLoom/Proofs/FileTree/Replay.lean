import PageLoom.Proofs.FileTree

set_option autoImplicit false

/-! # Writing the same files again

Files are written one after the other, which takes a tree to the last one. When the same files are
written again, beginning with the last tree, every location holds at any time either what it holds
at last, or the same file as at that time the first time (`Replays`). Hence nothing stands in the
way of a file that was written before (`Replays.write`), and when all are written the tree is the
last one again (`Replays.eq_last`). -/

namespace PageLoom
namespace FileTree

open SitePath

variable {tree tree' made again last : FileTree} {locations : Location → Prop} {l k : Location}
  {path : Text} {content : Octets}

/-! ## Trees and paths -/

/-- A lawful tree is known from its locations, what stands there and what the system refuses. -/
theorem Lawful.eq_of_node? (h : tree.Lawful) (h' : tree'.Lawful) (hcwd : tree'.cwd = tree.cwd)
    (hrefusals : tree'.refusal? = tree.refusal?) (hroom : tree'.room = tree.room)
    (hlocations : tree'.nodes.map Prod.fst = tree.nodes.map Prod.fst)
    (hnodes : ∀ l, tree'.node? l = tree.node? l) : tree' = tree := by
  -- Each node is what is found at its location.
  have hlist : ∀ {t : FileTree}, t.Lawful →
      t.nodes = (t.nodes.map Prod.fst).map fun l => (l, (t.node? l).getD .directory) := by
    intro t ht
    rw [List.map_map]
    refine (List.map_id _).symm.trans (List.map_congr_left fun ⟨l, n⟩ hm => ?_)
    have hl : l ≠ [] := fun heq => ht.root (heq ▸ List.mem_map_of_mem hm)
    simp [(ht.mem_nodes_iff hl).1 hm]
  have heq : tree'.nodes = tree.nodes := by
    rw [hlist h', hlist h, hlocations]
    exact List.map_congr_left fun l _ => by rw [hnodes]
  cases tree
  cases tree'
  simp_all

/-- A directory that is there is as good as made. -/
theorem makeDirectories_of_isDirectory (h : tree.isDirectory path = .ok true) :
    tree.makeDirectories path = (tree, .ok ()) := by
  obtain ⟨l, hlocate, hnode⟩ := isDirectory_eq_true_iff.1 h
  have hmake : tree.makeDirectory path = .error (.exists path) := by
    rw [makeDirectory, hlocate]
    simp [bind, Except.bind, hnode, Result.throw_eq]
  rw [makeDirectories, makeDirectories.go, hmake]
  simp [unlessThere, h]

/-- A file is copied when it can be read and its content can be written elsewhere. -/
theorem copy_of_read {source target : Text} (hcwd : ∀ name ∈ tree.cwd, Proper name)
    (hapart : tree.resolve source ≠ tree.resolve target) (hread : tree.read source = .ok content)
    (hwrite : tree.write target content = (tree', .ok ())) :
    tree.copy source target = (tree', .ok ()) := by
  obtain ⟨s, hs, -⟩ := read_eq_ok_iff.1 hread
  obtain ⟨t, hopen, -⟩ := write_eq_ok_iff.1 hwrite
  have ht := (openFile_eq_ok_iff.1 hopen).1
  have hne : s ≠ t := by
    rw [locate_eq_resolve hcwd hs, locate_eq_resolve hcwd ht]
    exact hapart
  have hsame : tree.isSame source target = false := by
    rw [isSame, hs, ht]
    simp [hne]
  exact copy_eq_ok_iff.2 ⟨hsame, content, hread, hwrite⟩

/-! ## Replays -/

/-- The tree `tree` leads to the tree `last`. From there the same files are written again, and
    `again` is the tree when that has come as far as `tree`. -/
structure Replays (locations : Location → Prop) (last tree again : FileTree) : Prop where
  lawful : last.Lawful
  ahead : Touches locations tree last
  cwd : again.cwd = last.cwd
  refusals : again.refusal? = last.refusal?
  room : again.room = last.room
  /-- Nothing is new the second time. -/
  known : again.nodes.map Prod.fst = last.nodes.map Prod.fst
  nodes : ∀ l, again.node? l = last.node? l ∨
    ∃ content, again.node? l = some (.file content) ∧ tree.node? l = some (.file content)

namespace Replays

/-- At first, everything is as it is at last. -/
theorem start (hlawful : last.Lawful) (hahead : Touches locations tree last) :
    Replays locations last tree last :=
  ⟨hlawful, hahead, rfl, rfl, rfl, rfl, fun _ => .inl rfl⟩

theorem node?_eq_directory_iff (h : Replays locations last tree again) :
    again.node? l = some .directory ↔ last.node? l = some .directory := by
  rcases h.nodes l with heq | ⟨content, hagain, hfile⟩
  · rw [heq]
  · -- A file of the one tree is a file of the last one.
    obtain ⟨content', hlast⟩ := h.ahead.kept l content hfile
    rw [hagain, hlast]
    constructor <;> exact nofun

theorem exists_file (h : Replays locations last tree again)
    (hlast : last.node? l = some (.file content)) :
    ∃ content', again.node? l = some (.file content') := by
  rcases h.nodes l with heq | ⟨content', hagain, -⟩
  · exact ⟨content, heq.trans hlast⟩
  · exact ⟨content', hagain⟩

theorem lawful_again (h : Replays locations last tree again) : again.Lawful where
  locations := h.known ▸ h.lawful.locations
  root := h.known ▸ h.lawful.root
  proper m hm := by
    have hmem : m.1 ∈ last.nodes.map Prod.fst := h.known ▸ List.mem_map_of_mem hm
    obtain ⟨m', hm', heq⟩ := List.mem_map.1 hmem
    exact heq ▸ h.lawful.proper m' hm'
  parents m hm := by
    have hmem : m.1 ∈ last.nodes.map Prod.fst := h.known ▸ List.mem_map_of_mem hm
    obtain ⟨m', hm', heq⟩ := List.mem_map.1 hmem
    exact h.node?_eq_directory_iff.2 (heq ▸ h.lawful.parents m' hm')
  cwd := h.cwd ▸ h.lawful.cwd

/-- The second time, files that are not written are those of the first time. -/
theorem touches (h : Replays locations last tree again) : Touches locations tree again where
  cwd := h.cwd.trans h.ahead.cwd
  refusals := h.refusals.trans h.ahead.refusals
  room := h.room.trans h.ahead.room
  directories l hl := h.node?_eq_directory_iff.2 (h.ahead.directories l hl)
  files l hl content := by
    rcases h.nodes l with heq | ⟨content', hagain, hfile⟩
    · rw [heq]
      exact h.ahead.files l hl content
    · rw [hagain, hfile]
  kept l content hl := by
    obtain ⟨content', hlast⟩ := h.ahead.kept l content hl
    exact h.exists_file hlast
  lawful _ := h.lawful_again

/-- When everything is written, the tree is the last one. -/
theorem eq_last (h : Replays locations last last again) : again = last := by
  refine h.lawful.eq_of_node? h.lawful_again h.cwd h.refusals h.room h.known fun l => ?_
  rcases h.nodes l with heq | ⟨content, hagain, hlast⟩
  · exact heq
  · rw [hagain, hlast]

/-- Directories that are made do not matter. -/
theorem of_made (h : Replays locations last tree again) (hmade : Touches (fun _ => False) tree made)
    (hahead : Touches locations made last) : Replays locations last made again :=
  { h with
    ahead := hahead
    nodes := fun l => (h.nodes l).imp_right fun ⟨content, hagain, hfile⟩ =>
      ⟨content, hagain, (hmade.files l not_false content).2 hfile⟩ }

/-- A file that was written the first time can be written again. -/
theorem write (h : Replays locations last tree again)
    (hwrite : tree.write path content = (tree', .ok ())) (hahead : Touches locations tree' last) :
    ∃ again', again.write path content = (again', .ok ()) ∧
      Replays locations last tree' again' := by
  obtain ⟨l, hopen, hfill, rfl⟩ := write_eq_ok_iff.1 hwrite
  obtain ⟨hlocate, hfile, hparent, hpermit⟩ := openFile_eq_ok_iff.1 hopen
  have hl : l ≠ [] := ne_nil_of_node? hfile
  -- There is a file at last, so there is one the second time, where nothing is in its way.
  obtain ⟨content', hlast⟩ := hahead.kept l content (node?_put_self hl tree _)
  obtain ⟨old, hold⟩ := h.exists_file hlast
  have hagain : again.openFile path = .ok l := by
    refine openFile_eq_ok_iff.2 ⟨h.touches.locate hlocate, by rw [hold]; exact nofun,
      h.touches.directories _ hparent, ?_⟩
    rw [h.touches.refusals]
    exact hpermit
  refine ⟨again.put l (.file content), write_eq_ok_iff.2 ⟨l, hagain, ?_, rfl⟩,
    ⟨h.lawful, hahead, h.cwd, h.refusals, h.room, ?_, fun k => ?_⟩⟩
  · rw [h.touches.refusals]
    exact hfill
  · have hthere : l ∈ again.nodes.map Prod.fst :=
      List.mem_map_of_mem ((h.lawful_again.mem_nodes_iff hl).2 hold)
    rw [put, map_fst_putNode, if_pos hthere]
    exact h.known
  · by_cases hkl : k = l
    · subst hkl
      exact .inr ⟨content, node?_put_self hl again _, node?_put_self hl tree _⟩
    · rw [node?_put_of_ne hkl, node?_put_of_ne hkl]
      exact h.nodes k

/-- A file outside of what is written that was copied the first time can be copied again. -/
theorem copy (h : Replays locations last tree again) (hcwd : ∀ name ∈ tree.cwd, Proper name)
    {source target : Text} (hsource : ¬ locations (tree.resolve source))
    (htarget : locations (tree.resolve target))
    (hcopy : tree.copy source target = (tree', .ok ())) (hahead : Touches locations tree' last) :
    ∃ again', again.copy source target = (again', .ok ()) ∧
      Replays locations last tree' again' := by
  obtain ⟨-, content, hread, hwrite⟩ := copy_eq_ok_iff.1 hcopy
  obtain ⟨again', hagain, hnext⟩ := h.write hwrite hahead
  refine ⟨again', copy_of_read h.lawful_again.cwd ?_ (h.touches.read hcwd hsource hread) hagain,
    hnext⟩
  rw [h.touches.resolve, h.touches.resolve]
  exact fun heq => hsource (heq ▸ htarget)

end Replays

end FileTree
end PageLoom
