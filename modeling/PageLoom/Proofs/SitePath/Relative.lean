import PageLoom.AssetUrl
import PageLoom.Proofs.SitePath

set_option autoImplicit false

/-! # Paths from a directory

A path seen from a directory leads up out of what the two do not share and then down
(`stepsFrom`), so that walking it from the directory leads to the same place
(`foldl_descend_stepsFrom`). It is found from the two places alone. Hence an asset path, seen from
the site's directory, has one spelling for each file that it may name, whatever template it stands
in (`canonical_relativize`). -/

namespace PageLoom
namespace SitePath

variable {cwd p q : Text}

/-! ## Resolving a path -/

/-- Only segments that lead somewhere are added to a resolved path. -/
theorem mem_of_mem_pushSegment {absolute : Bool} {done : List Text} {seg s : Text}
    (h : s ∈ pushSegment absolute done seg) :
    s ∈ done ∨ s = seg ∧ seg ≠ [] ∧ seg ≠ ['.'] := by
  unfold pushSegment at h
  by_cases hskip : seg = [] ∨ seg = ['.']
  · rw [if_pos hskip] at h
    exact .inl h
  · rw [if_neg hskip] at h
    cases done with
    | nil => grind
    | cons last earlier => grind

theorem of_mem_resolved {name : Text} (h : name ∈ resolved p) :
    name ≠ [] ∧ '/' ∉ name ∧ name ≠ ['.'] := by
  suffices hgo : ∀ segs done : List Text, (∀ seg ∈ segs, '/' ∉ seg) →
      (∀ seg ∈ done, seg ≠ [] ∧ '/' ∉ seg ∧ seg ≠ ['.']) →
      ∀ seg ∈ segs.foldl (pushSegment (isAbsolute p)) done,
        seg ≠ [] ∧ '/' ∉ seg ∧ seg ≠ ['.'] from
    hgo (segments p) [] (fun _ => Text.not_mem_of_mem_splitOn)
      (fun _ hseg => absurd hseg List.not_mem_nil) name (List.mem_reverse.1 h)
  intro segs
  induction segs with
  | nil => exact fun _ _ hdone => hdone
  | cons first rest ih =>
      intro done hsegs hdone
      refine ih _ (fun seg hseg => hsegs seg (List.mem_cons_of_mem _ hseg)) fun seg hseg => ?_
      rcases mem_of_mem_pushSegment hseg with hmem | ⟨rfl, hempty, hdot⟩
      · exact hdone seg hmem
      · exact ⟨hempty, hsegs seg List.mem_cons_self, hdot⟩

theorem parts_normalize (p : Text) : parts (normalize p) = resolved p :=
  parts_spell (fun _ => of_mem_resolved) p

theorem isAbsolute_normalize (p : Text) : isAbsolute (normalize p) = isAbsolute p :=
  isAbsolute_spell (fun _ => of_mem_resolved) p

/-- Adding a segment to a relative path walks down its name. -/
theorem foldl_descend_pushSegment {seg : Text} (hseg : seg ≠ [] ∧ seg ≠ ['.']) (done l : List Text) :
    (pushSegment false done seg).reverse.foldl descend l =
      descend (done.reverse.foldl descend l) seg := by
  have hskip : ¬ (seg = [] ∨ seg = ['.']) := not_or.2 hseg
  by_cases hdots : seg = ['.', '.']
  · subst hdots
    cases done with
    | nil => rfl
    | cons last earlier =>
        by_cases hlast : last = ['.', '.']
        · simp [pushSegment, hlast]
        · -- The name that is taken back was the last one to be walked down.
          simp [pushSegment, descend, hlast]
  · simp [pushSegment, hskip, hdots]

/-- A relative path that is resolved leads where it did. -/
theorem foldl_descend_resolved (hp : isAbsolute p = false) (l : List Text) :
    (resolved p).foldl descend l = (parts p).foldl descend l := by
  suffices hgo : ∀ segs done : List Text,
      (segs.foldl (pushSegment false) done).reverse.foldl descend l =
        (segs.filter fun s => s ≠ [] ∧ s ≠ ['.']).foldl descend (done.reverse.foldl descend l) by
    rw [resolved, hp]
    exact hgo (segments p) []
  intro segs
  induction segs with
  | nil => exact fun _ => rfl
  | cons seg rest ih =>
      intro done
      rw [List.foldl_cons, ih]
      by_cases hseg : seg ≠ [] ∧ seg ≠ ['.']
      · rw [List.filter_cons_of_pos (by simpa using hseg), List.foldl_cons,
          foldl_descend_pushSegment hseg]
      · have hpush : pushSegment false done seg = done := if_pos (by tauto)
        rw [hpush, List.filter_cons_of_neg (by simpa using hseg)]

/-- Resolving a path does not change where it leads. -/
theorem components_normalize (hcwd : isAbsolute cwd = true) (p : Text) :
    components cwd (normalize p) = components cwd p := by
  rw [components_eq_foldl hcwd, components_eq_foldl hcwd, parts_normalize, isAbsolute_normalize]
  cases hp : isAbsolute p with
  | false => exact foldl_descend_resolved hp _
  | true =>
      have hproper : ∀ name ∈ (parts p).foldl descend [], Proper name :=
        proper_of_mem_foldl_descend (fun _ hname => absurd hname List.not_mem_nil) p
      rw [resolved_eq hp, if_pos rfl, foldl_descend_of_proper hproper, List.nil_append]

/-- A path below a directory leads on from there. -/
theorem components_join (hcwd : isAbsolute cwd = true) (hq : isAbsolute q = false) (p : Text) :
    components cwd (join p q) = (parts q).foldl descend (components cwd p) := by
  rw [components_eq_foldl hcwd, components_eq_foldl hcwd, parts_join hq, isAbsolute_join hq,
    List.foldl_append]

/-- A path leads to a place that has a name in every directory above it. -/
theorem proper_components (hcwd : isAbsolute cwd = true) (p : Text) :
    ∀ name ∈ components cwd p, Proper name := by
  rw [components_eq_foldl hcwd]
  refine proper_of_mem_foldl_descend ?_ p
  split
  · exact fun _ hname => absurd hname List.not_mem_nil
  · exact proper_of_mem_foldl_descend (fun _ hname => absurd hname List.not_mem_nil) cwd

/-! ## Up and down -/

theorem take_commonLength (s t : List Text) :
    s.take (commonLength s t) = t.take (commonLength s t) := by
  fun_induction commonLength s t with
  | case1 a s t ih => rw [List.take_succ_cons, List.take_succ_cons, ih]
  | case2 => rfl
  | case3 => rfl

theorem commonLength_le (s t : List Text) : commonLength s t ≤ s.length := by
  fun_induction commonLength s t with
  | case1 a s t ih => exact Nat.succ_le_succ ih
  | case2 => exact Nat.zero_le _
  | case3 => exact Nat.zero_le _

/-- The way from one place to another: up to the last directory that they share, and down. -/
def stepsFrom (start target : List Text) : List Text :=
  List.replicate (start.length - commonLength start target) ['.', '.'] ++
    target.drop (commonLength start target)

theorem foldl_descend_replicate (n : Nat) (l : List Text) :
    (List.replicate n ['.', '.']).foldl descend l = l.take (l.length - n) := by
  induction n generalizing l with
  | zero => exact (List.take_length).symm
  | succ n ih =>
      have hup : descend l ['.', '.'] = l.take (l.length - 1) := by
        rw [descend, if_pos rfl, List.dropLast_eq_take]
      rw [List.replicate_succ, List.foldl_cons, ih, hup, List.take_take, List.length_take]
      congr 1
      omega

/-- The way from one place to another leads there. -/
theorem foldl_descend_stepsFrom {start target : List Text} (h : ∀ name ∈ target, Proper name) :
    (stepsFrom start target).foldl descend start = target := by
  have hle := commonLength_le start target
  rw [stepsFrom, List.foldl_append, foldl_descend_replicate,
    foldl_descend_of_proper fun name hname => h name (List.mem_of_mem_drop hname),
    Nat.sub_sub_self hle, take_commonLength, List.take_append_drop]

/-- Steps are names, or lead one directory up. -/
theorem of_mem_stepsFrom {target : List Text} (h : ∀ name ∈ target, Proper name)
    (start : List Text) :
    ∀ name ∈ stepsFrom start target, name ≠ [] ∧ '/' ∉ name ∧ name ≠ ['.'] := by
  intro name hname
  rcases List.mem_append.1 hname with hup | hdown
  · rw [List.eq_of_mem_replicate hup]
    decide
  · have hproper := h name (List.mem_of_mem_drop hdown)
    exact ⟨hproper.ne_nil, hproper.no_slash, hproper.ne_dot⟩

/-! ## An asset path seen from the site -/

/-- The place that an asset path of a template names. -/
def named (cwd path file : Text) : List Text := components cwd (join (parent file) path)

theorem stepsFrom_named (hcwd : isAbsolute cwd = true) (path file site : Text) :
    ∀ name ∈ stepsFrom (components cwd site) (named cwd path file),
      name ≠ [] ∧ '/' ∉ name ∧ name ≠ ['.'] :=
  of_mem_stepsFrom (proper_components hcwd (join (parent file) path)) _

/-- The names of a path seen from a directory are the steps that lead there. -/
theorem parts_relative (hcwd : isAbsolute cwd = true) (p start : Text) :
    parts (relative cwd p start) = stepsFrom (components cwd start) (components cwd p) ∧
      isAbsolute (relative cwd p start) = false := by
  have hsteps := of_mem_stepsFrom (proper_components hcwd p) (components cwd start)
  have hrelative : relative cwd p start =
      if (stepsFrom (components cwd start) (components cwd p)).isEmpty then ['.']
      else ofSegments (stepsFrom (components cwd start) (components cwd p)) := rfl
  rw [hrelative]
  split
  next hempty => exact ⟨(List.isEmpty_iff.1 hempty).symm, rfl⟩
  next =>
    exact ⟨parts_ofSegments hsteps,
      isAbsolute_ofSegments fun name hname => ⟨(hsteps name hname).1, (hsteps name hname).2.1⟩⟩

/-- An asset path seen from the site is the steps to the place that it names. -/
theorem relativize_eq (hcwd : isAbsolute cwd = true) (path file site : Text) :
    relativize cwd path file site =
      spell [] (stepsFrom (components cwd site) (named cwd path file)) := by
  obtain ⟨hparts, hrelative⟩ := parts_relative hcwd (normalize (join (parent file) path)) site
  have hroot : root (relative cwd (normalize (join (parent file) path)) site) = [] := by
    rcases root_cases (relative cwd (normalize (join (parent file) path)) site) with
      ⟨-, hroot⟩ | ⟨habsolute, -⟩
    · exact hroot
    · cases hrelative.symm.trans habsolute
  rw [relativize, tidy, hparts, hroot, components_normalize hcwd]
  rfl

/-- Joined with the site's directory, the path leads back to the place. -/
theorem components_join_relativize (hcwd : isAbsolute cwd = true) (path file site : Text) :
    components cwd (join site (relativize cwd path file site)) = named cwd path file := by
  have hsteps := stepsFrom_named hcwd path file site
  have hrelative : isAbsolute (relativize cwd path file site) = false := by
    rw [relativize_eq hcwd, isAbsolute_spell hsteps]
    rfl
  rw [components_join hcwd hrelative, relativize_eq hcwd, parts_spell hsteps]
  exact foldl_descend_stepsFrom (proper_components hcwd _)

/-- Paths seen from the site are the same exactly if they name the same place. -/
theorem relativize_eq_iff (hcwd : isAbsolute cwd = true) (path file path' file' site : Text) :
    relativize cwd path file site = relativize cwd path' file' site ↔
      named cwd path file = named cwd path' file' := by
  constructor
  · intro heq
    rw [← components_join_relativize hcwd path file site, heq, components_join_relativize hcwd]
  · intro heq
    rw [relativize_eq hcwd, relativize_eq hcwd, heq]

/-- The one spelling of a path that is seen from a directory: first up, and then down by proper
    names. -/
def Canonical (p : Text) : Prop :=
  p = ['.'] ∨ ∃ ups names, segments p = List.replicate ups ['.', '.'] ++ names ∧
    ∀ name ∈ names, Proper name

theorem canonical_relativize (hcwd : isAbsolute cwd = true) (path file site : Text) :
    Canonical (relativize cwd path file site) := by
  have hsteps := stepsFrom_named hcwd path file site
  rw [relativize_eq hcwd]
  by_cases hempty : stepsFrom (components cwd site) (named cwd path file) = []
  · rw [hempty]
    exact .inl rfl
  · have hsegments := segments_ofSegments hempty fun name hname => (hsteps name hname).2.1
    have hne : ofSegments (stepsFrom (components cwd site) (named cwd path file)) ≠ [] := by
      intro hnil
      rw [hnil] at hsegments
      have hfirst : [] ∈ stepsFrom (components cwd site) (named cwd path file) :=
        hsegments ▸ List.mem_singleton_self []
      exact (hsteps [] hfirst).1 rfl
    have hspell : spell [] (stepsFrom (components cwd site) (named cwd path file)) =
        ofSegments (stepsFrom (components cwd site) (named cwd path file)) := by
      rw [spell, show root [] = [] from rfl, List.nil_append]
      exact if_neg (by simpa using hne)
    rw [hspell]
    exact .inr ⟨_, _, hsegments, fun name hname =>
      proper_components hcwd _ name (List.mem_of_mem_drop hname)⟩

/-- A path in its one spelling does not begin with a directory that leads nowhere. -/
theorem Canonical.ne_dot_slash (h : Canonical p) (rest : Text) : p ≠ '.' :: '/' :: rest := by
  rintro rfl
  have hsegments : segments ('.' :: '/' :: rest) = ['.'] :: segments rest :=
    Text.splitOn_append_cons '/' ['.'] rest
  rcases h with hdot | ⟨ups, names, hnames, hproper⟩
  · cases hdot
  · rw [hsegments] at hnames
    cases ups with
    | zero =>
        rw [List.replicate_zero, List.nil_append] at hnames
        exact (hproper ['.'] (hnames ▸ List.mem_cons_self)).ne_dot rfl
    | succ ups =>
        rw [List.replicate_succ, List.cons_append] at hnames
        exact absurd (List.cons.inj hnames).1 (by decide)

/-- A file-relative import is looked up as it is seen from the site. -/
theorem lookupPath_eq (hcwd : isAbsolute cwd = true) {path file site : Text}
    {options : CompileOptions} (hsite : options.siteDir = some site)
    (hpath : isFileRelative path = true) :
    AssetUrl.lookupPath cwd path file options = relativize cwd path file site := by
  rw [AssetUrl.lookupPath, hsite]
  simp only [hpath, if_true]
  split
  next rest heq => exact absurd heq ((canonical_relativize hcwd path file site).ne_dot_slash rest)
  next => rfl

/-- What asset paths are, seen from the site's directory. -/
structure Relativizes (cwd site : Text) : Prop where
  /-- Joined with the directory again, a path leads where it led in its template. -/
  leads : ∀ path file, components cwd (join site (relativize cwd path file site)) =
    components cwd (join (parent file) path)
  canonical : ∀ path file, Canonical (relativize cwd path file site)
  /-- Each place has a path of its own. -/
  same_iff : ∀ path file path' file',
    relativize cwd path file site = relativize cwd path' file' site ↔
      components cwd (join (parent file) path) = components cwd (join (parent file') path')
  /-- File-relative imports are looked up alike exactly if they name the same place. -/
  lookup_iff : ∀ options : CompileOptions, options.siteDir = some site → ∀ path file path' file',
    isFileRelative path = true → isFileRelative path' = true →
      (AssetUrl.lookupPath cwd path file options = AssetUrl.lookupPath cwd path' file' options ↔
        components cwd (join (parent file) path) = components cwd (join (parent file') path'))
  url_eq : ∀ options : CompileOptions, options.siteDir = some site → ∀ path file path' file',
    isFileRelative path = true → isFileRelative path' = true →
      components cwd (join (parent file) path) = components cwd (join (parent file') path') →
      AssetUrl.resolve cwd path file options = AssetUrl.resolve cwd path' file' options

/-- **One spelling for each place.** Seen from the site's directory, an asset path of a template
    leads where it led, by no detours, and two of them are the same exactly if they name the same
    place; so imports of one file have one URL. -/
theorem relativizes_of_isAbsolute {cwd : Text} (hcwd : isAbsolute cwd = true) (site : Text) :
    Relativizes cwd site := by
  have hlookup : ∀ options : CompileOptions, options.siteDir = some site →
      ∀ path file path' file', isFileRelative path = true → isFileRelative path' = true →
      (AssetUrl.lookupPath cwd path file options = AssetUrl.lookupPath cwd path' file' options ↔
        named cwd path file = named cwd path' file') := by
    intro options hsite path file path' file' hpath hpath'
    rw [lookupPath_eq hcwd hsite hpath, lookupPath_eq hcwd hsite hpath', relativize_eq_iff hcwd]
  refine ⟨fun path file => components_join_relativize hcwd path file site,
    fun path file => canonical_relativize hcwd path file site,
    fun path file path' file' => relativize_eq_iff hcwd path file path' file' site, hlookup, ?_⟩
  intro options hsite path file path' file' hpath hpath' hplace
  have hsame := (hlookup options hsite path file path' file' hpath hpath').2 hplace
  rw [AssetUrl.resolve, AssetUrl.resolve, hsame]

/-- Two templates of one site that import the same stylesheet, one of them by way of the directory
    above the site. -/
theorem relativizes_detour :
    let options : CompileOptions := { CompileOptions.plain with siteDir := some "site/" }
    isAbsolute "/w/x/.." = true ∧ Relativizes "/w/x/.." "site/" ∧
      AssetUrl.resolve "/w/x/.." "../.././site//css/a.css" "site/blog/post.vyu" options =
        AssetUrl.resolve "/w/x/.." "./css/a.css" "/w/site/index.vyu" options := by
  intro options
  have hcwd : isAbsolute "/w/x/.." = true := rfl
  have hsite := relativizes_of_isAbsolute hcwd "site/"
  exact ⟨hcwd, hsite, hsite.url_eq options rfl _ _ _ _ rfl rfl (by decide +kernel)⟩

end SitePath
end PageLoom
