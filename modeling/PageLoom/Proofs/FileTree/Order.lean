import PageLoom.Proofs.FileTree.Listing

set_option autoImplicit false

/-! # The order of a listing

A listing puts the files of a directory before those of its directories, and either of them in the
order of their names. Two files never come before each other (`Before.antisymm`), so a listing is
known from the files it holds (`filesBelow_congr`). -/

namespace PageLoom

namespace Text

variable {a b : Char} {s t u : Text}

theorem le_cons_iff :
    le (a :: s) (b :: t) = true ↔ a.toNat < b.toNat ∨ a = b ∧ le s t = true := by
  rw [le]
  by_cases hab : a = b
  · simp [hab]
  · simp [hab]

theorem le_trans (h : le s t = true) (h' : le t u = true) : le s u = true := by
  induction s generalizing t u with
  | nil => rfl
  | cons a s ih =>
      cases t with
      | nil => cases h
      | cons b t =>
          cases u with
          | nil => cases h'
          | cons c u =>
              rw [le_cons_iff] at h h' ⊢
              rcases h with hab | ⟨rfl, hst⟩
              · rcases h' with hbc | ⟨rfl, -⟩
                · exact .inl (Nat.lt_trans hab hbc)
                · exact .inl hab
              · exact h'.imp_right fun htu => ⟨htu.1, ih hst htu.2⟩

theorem le_total (s t : Text) : (le s t || le t s) = true := by
  induction s generalizing t with
  | nil => rfl
  | cons a s ih =>
      cases t with
      | nil => rfl
      | cons b t =>
          rw [Bool.or_eq_true, le_cons_iff, le_cons_iff]
          rcases Nat.lt_trichotomy a.toNat b.toNat with hlt | heq | hgt
          · exact .inl (.inl hlt)
          · obtain rfl := Char.toNat_inj.1 heq
            simpa using ih t
          · exact .inr (.inl hgt)

theorem le_antisymm (h : le s t = true) (h' : le t s = true) : s = t := by
  induction s generalizing t with
  | nil =>
      cases t with
      | nil => rfl
      | cons b t => cases h'
  | cons a s ih =>
      cases t with
      | nil => cases h
      | cons b t =>
          rw [le_cons_iff] at h h'
          rcases h with hab | ⟨rfl, hst⟩
          · rcases h' with hba | ⟨rfl, -⟩
            · omega
            · exact absurd hab (Nat.lt_irrefl _)
          · rcases h' with haa | ⟨-, hts⟩
            · exact absurd haa (Nat.lt_irrefl _)
            · rw [ih hst hts]

theorem pairwise_sort (ts : List Text) : (sort ts).Pairwise fun s t => le s t = true :=
  @List.pairwise_mergeSort _ le (fun _ _ _ => le_trans) le_total ts

end Text

namespace FileTree

variable {tree tree' : FileTree} {directory directory' : Location} {enter enter' : List Text → Bool}
  {names names' : List Text} {fuel fuel' : ℕ}

theorem pairwise_namesIn (tree : FileTree) (directory : Location) (keep : FileNode → Bool) :
    (tree.namesIn directory keep).Pairwise fun a b => Text.le a b = true :=
  Text.pairwise_sort _

/-- How two files are listed, one before the other. -/
inductive Before : List Text → List Text → Prop where
  /-- Both stand in the directory itself. -/
  | files {a b : Text} (h : Text.le a b = true) : Before [a] [b]
  /-- Only the second one stands in a directory of the directory. -/
  | down {a b : Text} {s : List Text} (hs : s ≠ []) : Before [a] (b :: s)
  /-- Both stand in directories of the directory, but not in the same one. -/
  | apart {a b : Text} {s t : List Text} (h : Text.le a b = true) (hne : a ≠ b) (hs : s ≠ [])
      (ht : t ≠ []) : Before (a :: s) (b :: t)
  /-- Both stand in the same directory of the directory. -/
  | within {a : Text} {s t : List Text} (h : Before s t) : Before (a :: s) (a :: t)

theorem Before.ne_nil (h : Before names names') : names ≠ [] ∧ names' ≠ [] := by
  cases h <;> simp

theorem Before.antisymm (h : Before names names') (h' : Before names' names) : names = names' := by
  induction h with
  | files hle =>
      cases h' with
      | files hle' => rw [Text.le_antisymm hle hle']
      | down hs => exact absurd rfl hs
      | apart _ _ hs => exact absurd rfl hs
      | within h' => exact absurd rfl h'.ne_nil.1
  | down hs =>
      cases h' with
      | files => exact absurd rfl hs
      | down => exact absurd rfl hs
      | apart _ _ _ ht => exact absurd rfl ht
      | within h' => exact absurd rfl h'.ne_nil.2
  | apart hle hne hs ht =>
      cases h' with
      | files => exact absurd rfl hs
      | down => exact absurd rfl ht
      | apart hle' => exact absurd (Text.le_antisymm hle hle') hne
      | within => exact absurd rfl hne
  | within h ih =>
      cases h' with
      | files => rfl
      | down => exact absurd rfl h.ne_nil.2
      | apart _ hne => exact absurd rfl hne
      | within h' => rw [ih h']

theorem pairwise_go (h : tree.Lawful) :
    (filesBelow.go tree enter directory fuel).Pairwise Before := by
  induction fuel generalizing enter directory with
  | zero => exact .nil
  | succ fuel ih =>
      have hne : ∀ enter d, ∀ names ∈ filesBelow.go tree enter d fuel, names ≠ [] :=
        fun enter d names hmem => ((mem_go_iff h).1 hmem).1
      rw [filesBelow.go]
      split
      case isFalse => exact .nil
      rw [List.pairwise_append]
      refine ⟨?_, ?_, ?_⟩
      · exact List.pairwise_map.2 ((pairwise_namesIn tree directory _).imp .files)
      · rw [List.pairwise_flatMap]
        refine ⟨fun name _ => List.pairwise_map.2 (ih.imp .within), ?_⟩
        have hsorted := (pairwise_namesIn tree directory (· = .directory)).and (nodup_namesIn h _)
        refine hsorted.imp fun hnames names hleft names' hright => ?_
        obtain ⟨inner, hinner, rfl⟩ := List.mem_map.1 hleft
        obtain ⟨inner', hinner', rfl⟩ := List.mem_map.1 hright
        exact .apart hnames.1 hnames.2 (hne _ _ inner hinner) (hne _ _ inner' hinner')
      · intro names hleft names' hright
        obtain ⟨name, -, rfl⟩ := List.mem_map.1 hleft
        obtain ⟨other, -, hbelow⟩ := List.mem_flatMap.1 hright
        obtain ⟨inner, hinner, rfl⟩ := List.mem_map.1 hbelow
        exact .down (hne _ _ inner hinner)

/-- Listings of the same files are the same. -/
theorem go_congr (h : tree.Lawful) (h' : tree'.Lawful)
    (hmem : ∀ names, names ∈ filesBelow.go tree enter directory fuel ↔
      names ∈ filesBelow.go tree' enter' directory' fuel') :
    filesBelow.go tree enter directory fuel = filesBelow.go tree' enter' directory' fuel' :=
  List.Perm.eq_of_pairwise (fun _ _ _ _ => Before.antisymm) (pairwise_go h) (pairwise_go h')
    ((List.perm_ext_iff_of_nodup (nodup_go h ..) (nodup_go h' ..)).2 hmem)

/-- **A listing is known from the files it holds.** -/
theorem filesBelow_congr (h : tree.Lawful) (h' : tree'.Lawful)
    (hmem : ∀ names, names ∈ tree.filesBelow enter directory ↔
      names ∈ tree'.filesBelow enter' directory') :
    tree.filesBelow enter directory = tree'.filesBelow enter' directory' :=
  go_congr h h' hmem

end FileTree
end PageLoom
