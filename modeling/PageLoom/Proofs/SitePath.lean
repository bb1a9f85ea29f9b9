import Mathlib.Data.List.Basic
import PageLoom.Proofs.Text.Pieces
import PageLoom.SitePath

set_option autoImplicit false

/-! # Paths name by name

A path is read as its names (`SitePath.parts`), whatever its spelling: joining and tidying paths
only joins their names, and names that are proper come out of a path again as they went in. Walking
down the names from a directory gives where a path leads (`SitePath.components_eq`). -/

namespace PageLoom
namespace SitePath

/-- A name that a file can have. -/
structure Proper (name : Text) : Prop where
  ne_nil : name ≠ []
  no_slash : '/' ∉ name
  ne_dot : name ≠ ['.']
  ne_dots : name ≠ ['.', '.']

instance (name : Text) : Decidable (Proper name) :=
  decidable_of_iff (name ≠ [] ∧ '/' ∉ name ∧ name ≠ ['.'] ∧ name ≠ ['.', '.'])
    ⟨fun h => ⟨h.1, h.2.1, h.2.2.1, h.2.2.2⟩, fun h => ⟨h.1, h.2, h.3, h.4⟩⟩

/-- A path that leads down, by proper names. -/
def Descends (path : Text) : Prop :=
  ∃ names, path = ofSegments names ∧ ∀ name ∈ names, Proper name

variable {names : List Text} {p q : Text}

/-! ## The names of a path -/

theorem of_mem_parts {name : Text} (h : name ∈ parts p) :
    name ≠ [] ∧ '/' ∉ name ∧ name ≠ ['.'] := by
  obtain ⟨hmem, hname⟩ := List.mem_filter.1 h
  rw [decide_eq_true_eq] at hname
  exact ⟨hname.1, Text.not_mem_of_mem_splitOn hmem, hname.2⟩

/-- A part is a proper name, or leads one directory up. -/
theorem proper_of_mem_parts {name : Text} (h : name ∈ parts p) (hdots : name ≠ ['.', '.']) :
    Proper name :=
  ⟨(of_mem_parts h).1, (of_mem_parts h).2.1, (of_mem_parts h).2.2, hdots⟩

theorem parts_append_slash (p q : Text) : parts (p ++ '/' :: q) = parts p ++ parts q := by
  rw [parts, segments, Text.splitOn_append_cons, List.filter_append]
  rfl

theorem segments_ofSegments (hne : names ≠ []) (h : ∀ name ∈ names, '/' ∉ name) :
    segments (ofSegments names) = names :=
  Text.splitOn_join hne h

theorem parts_ofSegments (h : ∀ name ∈ names, name ≠ [] ∧ '/' ∉ name ∧ name ≠ ['.']) :
    parts (ofSegments names) = names := by
  by_cases hne : names = []
  · subst hne
    rfl
  · rw [parts, segments_ofSegments hne fun name hname => (h name hname).2.1, List.filter_eq_self]
    intro name hname
    rw [decide_eq_true_eq]
    exact ⟨(h name hname).1, (h name hname).2.2⟩

theorem parts_ofSegments_of_proper (h : ∀ name ∈ names, Proper name) :
    parts (ofSegments names) = names :=
  parts_ofSegments fun name hname =>
    ⟨(h name hname).ne_nil, (h name hname).no_slash, (h name hname).ne_dot⟩

/-- Proper names are told apart by the path they make. -/
theorem ofSegments_injOn {names' : List Text} (h : ∀ name ∈ names, Proper name)
    (h' : ∀ name ∈ names', Proper name) (heq : ofSegments names = ofSegments names') :
    names = names' := by
  rw [← parts_ofSegments_of_proper h, heq, parts_ofSegments_of_proper h']

theorem isAbsolute_ofSegments (h : ∀ name ∈ names, name ≠ [] ∧ '/' ∉ name) :
    isAbsolute (ofSegments names) = false := by
  by_contra habsolute
  rw [Bool.not_eq_false, isAbsolute, decide_eq_true_eq, List.head?_eq_some_iff] at habsolute
  obtain ⟨rest, hrest⟩ := habsolute
  have hne : names ≠ [] := by
    rintro rfl
    cases hrest
  -- A slash in front would stand behind an empty first name.
  have hsegments := segments_ofSegments hne fun name hname => (h name hname).2
  rw [hrest] at hsegments
  have hfirst : [] ∈ names := hsegments ▸ List.mem_cons_self
  exact (h [] hfirst).1 rfl

theorem isAbsolute_ofSegments_of_proper (h : ∀ name ∈ names, Proper name) :
    isAbsolute (ofSegments names) = false :=
  isAbsolute_ofSegments fun name hname => ⟨(h name hname).ne_nil, (h name hname).no_slash⟩

/-! ## Joining and tidying -/

theorem parts_join (hq : isAbsolute q = false) : parts (join p q) = parts p ++ parts q := by
  rw [join, if_neg (by simp [hq])]
  split
  next hend =>
    rcases hend with hempty | hslash
    · rw [List.isEmpty_iff.1 hempty]
      rfl
    · obtain ⟨start, rfl⟩ := List.getLast?_eq_some_iff.1 hslash
      rw [List.append_assoc, List.singleton_append, parts_append_slash, parts_append_slash]
      exact congrArg (· ++ parts q) (List.append_nil _).symm
  next => exact parts_append_slash p q

theorem isAbsolute_join (hq : isAbsolute q = false) : isAbsolute (join p q) = isAbsolute p := by
  rw [join, if_neg (by simp [hq])]
  cases p with
  | nil => exact hq
  | cons c rest => split <;> rfl

/-- The root of a path is seen from its beginning. -/
theorem root_cases (p : Text) :
    (isAbsolute p = false ∧ root p = []) ∨
      isAbsolute p = true ∧ (root p = ['/'] ∨ root p = ['/', '/']) := by
  cases p with
  | nil => exact .inl ⟨rfl, rfl⟩
  | cons c rest =>
      by_cases hc : c = '/'
      · subst hc
        refine .inr ⟨rfl, ?_⟩
        unfold root
        split
        · simp_all
        · exact .inr rfl
        · exact .inl rfl
      · exact .inl (by simp [isAbsolute, root, hc])

/-- The root of `p` and names behind it, or `.` if that is empty. -/
def spell (p : Text) (names : List Text) : Text :=
  let text := root p ++ ofSegments names
  if text.isEmpty then ['.'] else text

theorem parts_spell (h : ∀ name ∈ names, name ≠ [] ∧ '/' ∉ name ∧ name ≠ ['.']) (p : Text) :
    parts (spell p names) = names := by
  have hparts := parts_ofSegments h
  have hslash : ∀ t : Text, parts ('/' :: t) = parts t := fun t => parts_append_slash [] t
  unfold spell
  rcases root_cases p with ⟨-, hroot⟩ | ⟨-, hroot | hroot⟩ <;> rw [hroot]
  · by_cases hempty : ofSegments names = []
    · rw [hempty] at hparts ⊢
      exact hparts
    · simpa [hempty] using hparts
  · exact (hslash _).trans hparts
  · exact (hslash _).trans ((hslash _).trans hparts)

theorem isAbsolute_spell (h : ∀ name ∈ names, name ≠ [] ∧ '/' ∉ name ∧ name ≠ ['.']) (p : Text) :
    isAbsolute (spell p names) = isAbsolute p := by
  unfold spell
  rcases root_cases p with ⟨hp, hroot⟩ | ⟨hp, hroot | hroot⟩ <;> rw [hroot, hp]
  · have hrelative : isAbsolute (ofSegments names) = false :=
      isAbsolute_ofSegments fun name hname => ⟨(h name hname).1, (h name hname).2.1⟩
    by_cases hempty : ofSegments names = []
    · rw [hempty]
      rfl
    · simpa [hempty] using hrelative
  · rfl
  · rfl

theorem parts_tidy (p : Text) : parts (tidy p) = parts p :=
  parts_spell (fun _ => of_mem_parts) p

theorem isAbsolute_tidy (p : Text) : isAbsolute (tidy p) = isAbsolute p :=
  isAbsolute_spell (fun _ => of_mem_parts) p

theorem root_spell (h : ∀ name ∈ names, name ≠ [] ∧ '/' ∉ name ∧ name ≠ ['.']) (p : Text) :
    root (spell p names) = root p := by
  have hrelative : isAbsolute (ofSegments names) = false :=
    isAbsolute_ofSegments fun name hname => ⟨(h name hname).1, (h name hname).2.1⟩
  -- The names do not go on with the slashes of the root.
  have hstart : (ofSegments names).takeWhile (· = '/') = [] := by
    cases hnames : ofSegments names with
    | nil => rfl
    | cons c rest =>
        have hc : c ≠ '/' := by simpa [hnames, isAbsolute] using hrelative
        simp [hc]
  have hspell := isAbsolute_spell h p
  rcases root_cases p with ⟨hp, hroot⟩ | ⟨-, hroot | hroot⟩
  · rcases root_cases (spell p names) with ⟨-, hspelled⟩ | ⟨habsolute, -⟩
    · rw [hspelled, hroot]
    · cases habsolute.symm.trans (hspell.trans hp)
  · have hslash : spell p names = '/' :: ofSegments names := by simp [spell, hroot]
    rw [hslash, hroot]
    simp [root, hstart]
  · have hslash : spell p names = '/' :: '/' :: ofSegments names := by simp [spell, hroot]
    rw [hslash, hroot]
    simp [root, hstart]

theorem tidy_tidy (p : Text) : tidy (tidy p) = tidy p := by
  have hroot : root (tidy p) = root p := root_spell (fun _ => of_mem_parts) p
  rw [tidy, parts_tidy, hroot]
  rfl

theorem tidy_child (p q : Text) : tidy (child p q) = child p q := tidy_tidy _

theorem parts_child (hq : isAbsolute q = false) : parts (child p q) = parts p ++ parts q := by
  rw [child, parts_tidy, parts_join hq]

theorem isAbsolute_child (hq : isAbsolute q = false) :
    isAbsolute (child p q) = isAbsolute p := by
  rw [child, isAbsolute_tidy, isAbsolute_join hq]

/-! ## Where a path leads -/

/-- From a directory to the one of a name in it, or up. -/
def descend (l : List Text) (name : Text) : List Text :=
  if name = ['.', '.'] then l.dropLast else l ++ [name]

theorem foldl_descend_of_proper (h : ∀ name ∈ names, Proper name) (l : List Text) :
    names.foldl descend l = l ++ names := by
  induction names generalizing l with
  | nil => exact (List.append_nil l).symm
  | cons name rest ih =>
      rw [List.foldl_cons, ih (fun n hn => h n (List.mem_cons_of_mem _ hn)), descend,
        if_neg (h name List.mem_cons_self).ne_dots, List.append_assoc]
      rfl

/-- Only proper names are ever left. -/
theorem proper_of_mem_foldl_descend {l : List Text} (hl : ∀ name ∈ l, Proper name) (p : Text) :
    ∀ name ∈ (parts p).foldl descend l, Proper name := by
  suffices hgo : ∀ names : List Text, (∀ name ∈ names, name ≠ ['.', '.'] → Proper name) →
      ∀ l : List Text, (∀ name ∈ l, Proper name) → ∀ name ∈ names.foldl descend l, Proper name from
    hgo (parts p) (fun name hname => proper_of_mem_parts hname) l hl
  intro names
  induction names with
  | nil => exact fun _ _ hl => hl
  | cons first rest ih =>
      intro hnames l hl
      refine ih (fun name hname => hnames name (List.mem_cons_of_mem _ hname)) _ ?_
      intro name hname
      unfold descend at hname
      split at hname
      next => exact hl name (List.dropLast_subset l hname)
      next hdots =>
        rcases List.mem_append.1 hname with hbefore | hlast
        · exact hl name hbefore
        · rw [List.mem_singleton.1 hlast]
          exact hnames first List.mem_cons_self hdots

/-- Resolving a path that begins at the root takes its names one after the other. -/
theorem resolved_eq (habsolute : isAbsolute p = true) :
    resolved p = (parts p).foldl descend [] := by
  suffices hgo : ∀ (segs done : List Text), ['.', '.'] ∉ done →
      (segs.foldl (pushSegment true) done).reverse =
        (segs.filter fun s => s ≠ [] ∧ s ≠ ['.']).foldl descend done.reverse by
    rw [resolved, habsolute]
    exact hgo (segments p) [] List.not_mem_nil
  intro segs
  induction segs with
  | nil => exact fun _ _ => rfl
  | cons seg rest ih =>
      intro done hdone
      by_cases hskip : seg = [] ∨ seg = ['.']
      · have hpush : pushSegment true done seg = done := by simp [pushSegment, hskip]
        have hfilter : ¬ (seg ≠ [] ∧ seg ≠ ['.']) := by tauto
        rw [List.foldl_cons, hpush, ih done hdone, List.filter_cons_of_neg (by simpa using hfilter)]
      · have hfilter : seg ≠ [] ∧ seg ≠ ['.'] := by tauto
        rw [List.foldl_cons, List.filter_cons_of_pos (by simpa using hfilter), List.foldl_cons]
        by_cases hdots : seg = ['.', '.']
        · subst hdots
          cases done with
          | nil => exact ih [] hdone
          | cons last earlier =>
              have hlast : last ≠ ['.', '.'] := fun heq => hdone (heq ▸ List.mem_cons_self)
              have hpush : pushSegment true (last :: earlier) ['.', '.'] = earlier := by
                simp [pushSegment, hlast]
              rw [hpush, ih earlier fun hmem => hdone (List.mem_cons_of_mem _ hmem)]
              simp [descend]
        · have hpush : pushSegment true done seg = seg :: done := by
            simp [pushSegment, hskip, hdots]
          rw [hpush, ih (seg :: done) (by simp [Ne.symm hdots, hdone])]
          simp [descend, hdots]

/-- Where a path leads from an absolute working directory is found by walking down the names of
    both. -/
theorem components_eq_foldl {cwd : Text} (hcwd : isAbsolute cwd = true) (p : Text) :
    components cwd p =
      (parts p).foldl descend (if isAbsolute p then [] else (parts cwd).foldl descend []) := by
  have hslash : ∀ t : Text, segments ('/' :: t) = [] :: segments t :=
    fun t => Text.splitOn_append_cons '/' [] t
  have habsolute : isAbsolute (join cwd p) = true := by
    cases hp : isAbsolute p with
    | true => simp [join, hp]
    | false => rw [isAbsolute_join hp, hcwd]
  have hproper : ∀ name ∈ resolved (join cwd p), Proper name := by
    rw [resolved_eq habsolute]
    exact proper_of_mem_foldl_descend (fun _ hname => absurd hname List.not_mem_nil) _
  -- The text of a resolved path is taken apart into the names it was made of.
  have hcomponents : components cwd p = resolved (join cwd p) := by
    have hnames : (segments (ofSegments (resolved (join cwd p)))).filter (¬ ·.isEmpty) =
        resolved (join cwd p) := by
      by_cases hne : resolved (join cwd p) = []
      · rw [hne]
        rfl
      · rw [segments_ofSegments hne fun name hname => (hproper name hname).no_slash,
          List.filter_eq_self]
        intro name hname
        simpa using (hproper name hname).ne_nil
    unfold components absolute normalize
    rcases root_cases (join cwd p) with ⟨hp, -⟩ | ⟨-, hroot | hroot⟩
    · cases habsolute.symm.trans hp
    · rw [hroot]
      simpa [hslash] using hnames
    · rw [hroot]
      simpa [hslash] using hnames
  rw [hcomponents, resolved_eq habsolute]
  cases hp : isAbsolute p with
  | true => simp [join, hp]
  | false =>
      rw [parts_join hp, List.foldl_append]
      rfl

/-- Where a path leads is found by walking down its names. -/
theorem components_eq {cwd : List Text} (hcwd : ∀ name ∈ cwd, Proper name) (p : Text) :
    components ('/' :: ofSegments cwd) p =
      (parts p).foldl descend (if isAbsolute p then [] else cwd) := by
  have hparts : parts ('/' :: ofSegments cwd) = cwd :=
    (parts_append_slash [] _).trans (parts_ofSegments_of_proper hcwd)
  rw [components_eq_foldl rfl, hparts, foldl_descend_of_proper hcwd, List.nil_append]

end SitePath
end PageLoom
