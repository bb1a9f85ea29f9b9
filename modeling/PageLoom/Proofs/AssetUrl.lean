import PageLoom.AssetUrl
import PageLoom.Directive
import PageLoom.Proofs.SitePath
import PageLoom.Proofs.Text.Trim

set_option autoImplicit false

/-! # How the URL of an asset is joined

The URL of an import is a base, a slash and the file that is found for it (`resolve_eq`). The base
never ends with a slash, and a path seen from the site's directory never begins with one. So the
slash stands alone, unless no emitted file stands for the import and its path begins with a slash as
it is written (`joins_resolve`). -/

namespace PageLoom

namespace SitePath

/-- A path as it is shown does not begin with a directory that leads nowhere. -/
theorem tidy_ne_dot_slash (p rest : Text) : tidy p ≠ '.' :: '/' :: rest := by
  intro h
  have hsegments : segments ('.' :: '/' :: rest) = ['.'] :: segments rest :=
    Text.splitOn_append_cons '/' ['.'] rest
  simp only [tidy] at h
  split at h
  next => cases h
  next hsome =>
    rcases root_cases p with ⟨-, hroot⟩ | ⟨-, hroot | hroot⟩ <;> rw [hroot] at h hsome
    · rw [List.nil_append] at h hsome
      have hne : parts p ≠ [] := by
        intro hnil
        rw [hnil] at hsome
        exact hsome rfl
      rw [← h, segments_ofSegments hne fun name hname => (of_mem_parts hname).2.1] at hsegments
      exact (of_mem_parts (hsegments ▸ List.mem_cons_self : ['.'] ∈ parts p)).2.2 rfl
    · cases h
    · cases h

/-- Seen from a directory, a path does not begin at the root. -/
theorem isAbsolute_relative (cwd p start : Text) : isAbsolute (relative cwd p start) = false := by
  simp only [relative]
  split
  next => rfl
  next =>
    refine isAbsolute_ofSegments fun name hname => ?_
    rcases List.mem_append.1 hname with hup | hdown
    · rw [List.eq_of_mem_replicate hup]
      decide
    · obtain ⟨hmem, hname⟩ := List.mem_filter.1 (List.mem_of_mem_drop hdown)
      exact ⟨by simpa using hname, Text.not_mem_of_mem_splitOn hmem⟩

theorem isAbsolute_relativize (cwd path file site : Text) :
    isAbsolute (relativize cwd path file site) = false := by
  rw [relativize, isAbsolute_tidy, isAbsolute_relative]

end SitePath

namespace AssetUrl

open SitePath

variable {cwd path file : Text} {options : CompileOptions}

/-! ## The parts of a URL -/

/-- What the URLs of all assets begin with: the URL of the bundler's server without the slashes at
    its end, or nothing in a build. -/
def base (options : CompileOptions) : Text :=
  if options.devMode then Text.dropEndWhile (· = '/') options.devServerUrl else []

/-- No emitted file stands for the import. -/
def Unmapped (cwd path file : Text) (options : CompileOptions) : Prop :=
  options.devMode = true ∨ member? (lookupPath cwd path file options) options.manifest = none

/-- The file that is found for an import: in a build the emitted one, if there is one. -/
def target (cwd path file : Text) (options : CompileOptions) : Text :=
  if options.devMode then lookupPath cwd path file options
  else (member? (lookupPath cwd path file options) options.manifest).getD
    (lookupPath cwd path file options)

theorem resolve_eq (cwd path file : Text) (options : CompileOptions) :
    resolve cwd path file options = base options ++ '/' :: target cwd path file options := by
  unfold resolve base target
  split <;> rfl

theorem target_of_unmapped (h : Unmapped cwd path file options) :
    target cwd path file options = lookupPath cwd path file options := by
  unfold target
  rcases h with hdev | hnone
  · rw [if_pos hdev]
  · rw [hnone, Option.getD_none, ite_self]

/-- An import that is mapped has one of the manifest's files. -/
theorem exists_of_mapped (h : ¬ Unmapped cwd path file options) :
    ∃ m ∈ options.manifest, target cwd path file options = m.2 := by
  rw [Unmapped, not_or, Bool.not_eq_true] at h
  obtain ⟨hbuild, hsome⟩ := h
  obtain ⟨emitted, hemitted⟩ := Option.ne_none_iff_exists'.1 hsome
  obtain ⟨m, hm, rfl⟩ := Option.map_eq_some_iff.1 hemitted
  refine ⟨m, List.mem_of_find?_eq_some hm, ?_⟩
  simp [target, hbuild, hemitted]

theorem base_of_build (h : options.devMode = false) : base options = [] := by
  simp [base, h]

theorem getLast?_base (options : CompileOptions) : (base options).getLast? ≠ some '/' := by
  unfold base
  split
  next =>
    intro hslash
    simpa using Text.getLast?_dropEndWhile (· = '/') options.devServerUrl '/' hslash
  next => nofun

/-! ## Paths that begin with a slash -/

/-- A path is looked up with a slash in front: it is written so, or with a `./` before the slash
    while the site's directory is not known. -/
def Rooted (path : Text) (options : CompileOptions) : Prop :=
  isAbsolute path = true ∨ options.siteDir = none ∧ ['.', '/', '/'] <+: path

instance (path : Text) (options : CompileOptions) : Decidable (Rooted path options) :=
  inferInstanceAs (Decidable (_ ∨ _))

theorem isAbsolute_of_isFileRelative (h : isFileRelative path = true) :
    isAbsolute path = false := by
  cases path with
  | nil => rfl
  | cons c rest =>
      rw [isFileRelative, Bool.or_eq_true, List.isPrefixOf_iff_prefix, List.isPrefixOf_iff_prefix,
        List.cons_prefix_cons, List.cons_prefix_cons] at h
      have hdot : '.' = c := h.elim And.left And.left
      rw [← hdot]
      rfl

theorem isAbsolute_lookupPath_iff :
    isAbsolute (lookupPath cwd path file options) = true ↔ Rooted path options := by
  unfold Rooted lookupPath
  cases hsite : options.siteDir with
  | none =>
      simp only [true_and]
      split
      next rest => cases rest <;> simp [isAbsolute, List.cons_prefix_cons, eq_comm]
      next h =>
        have hslashes : ¬ ['.', '/', '/'] <+: path := by
          rintro ⟨rest, rfl⟩
          exact h _ rfl
        simp [hslashes]
  | some site =>
      simp only [reduceCtorEq, false_and, or_false]
      by_cases hrelative : isFileRelative path = true
      · rw [if_pos hrelative, isAbsolute_of_isFileRelative hrelative]
        split
        next rest heq => exact absurd heq (tidy_ne_dot_slash _ rest)
        next => rw [isAbsolute_relativize]
      · rw [if_neg hrelative]
        split
        next rest => exact absurd rfl hrelative
        next => rfl

/-- While emitted files do not begin with a slash, only a path that is taken as it is written
    can. -/
theorem isAbsolute_target_iff (hmanifest : ∀ m ∈ options.manifest, isAbsolute m.2 = false) :
    isAbsolute (target cwd path file options) = true ↔
      Rooted path options ∧ Unmapped cwd path file options := by
  by_cases hunmapped : Unmapped cwd path file options
  · rw [target_of_unmapped hunmapped, isAbsolute_lookupPath_iff]
    exact (and_iff_left hunmapped).symm
  · obtain ⟨m, hm, htarget⟩ := exists_of_mapped hunmapped
    rw [htarget, hmanifest m hm]
    simp [hunmapped]

/-! ## The slash between them -/

/-- How the URL of an import is joined from its parts. -/
structure Joins (cwd path file : Text) (options : CompileOptions) : Prop where
  base_build : options.devMode = false → base options = []
  /-- The URL of the bundler's server is the base with slashes behind it. -/
  base_dev : options.devMode = true →
    ∃ slashes, options.devServerUrl = base options ++ slashes ∧ ∀ c ∈ slashes, c = '/'
  getLast?_base : (base options).getLast? ≠ some '/'
  /-- No second slash follows the one behind the base, unless the path brings it along. -/
  single_iff : (∃ rest, resolve cwd path file options = base options ++ '/' :: rest ∧
      isAbsolute rest = false) ↔ ¬ (Rooted path options ∧ Unmapped cwd path file options)
  /-- A build's URL that names a host is that of a path that begins with a slash. -/
  host_iff : options.devMode = false → (['/', '/'] <+: resolve cwd path file options ↔
    Rooted path options ∧ Unmapped cwd path file options)

/-- **One slash between base and file.** While emitted files do not begin with a slash, a URL is its
    base, one slash and a rest without a slash in front, except for imports that no emitted file
    stands for and whose path begins with a slash as it is written. -/
theorem joins_resolve (hmanifest : ∀ m ∈ options.manifest, isAbsolute m.2 = false)
    (cwd path file : Text) : Joins cwd path file options := by
  have htarget : isAbsolute (target cwd path file options) = true ↔
      Rooted path options ∧ Unmapped cwd path file options := isAbsolute_target_iff hmanifest
  refine ⟨base_of_build, fun hdev => ?_, getLast?_base options, ?_, fun hbuild => ?_⟩
  · refine ⟨(options.devServerUrl.reverse.takeWhile (· = '/')).reverse, ?_, fun c hc => ?_⟩
    · rw [base, if_pos hdev, Text.dropEndWhile_append_dropped]
    · simpa using Text.all_takeWhile (· = '/') _ c (List.mem_reverse.1 hc)
  · rw [← htarget, Bool.not_eq_true, resolve_eq]
    constructor
    · rintro ⟨rest, heq, hrest⟩
      rw [(List.cons.inj (List.append_cancel_left heq)).2]
      exact hrest
    · intro hrest
      exact ⟨_, rfl, hrest⟩
  · rw [← htarget, resolve_eq, base_of_build hbuild, List.nil_append, List.cons_prefix_cons]
    cases target cwd path file options <;>
      simp [isAbsolute, List.cons_prefix_cons, eq_comm]

/-- An import of a blog post that is mapped, beside one that is not, at a server whose URL ends with
    slashes. -/
theorem joins_post :
    let build : CompileOptions :=
      ⟨false, [], [("css/a.css", "assets/a-4f2a.css"), ("/b.js", "b-1c.js")], some "site"⟩
    (∀ m ∈ build.manifest, isAbsolute m.2 = false) ∧
      Joins "/work" "../css/a.css" "site/blog/post.vyu" build ∧
      (∃ rest, resolve "/work" "/b.js" "site/blog/post.vyu" build = base build ++ '/' :: rest ∧
        isAbsolute rest = false) := by
  intro build
  have hmanifest : ∀ m ∈ build.manifest, isAbsolute m.2 = false := by decide
  refine ⟨hmanifest, joins_resolve hmanifest _ _ _,
    (joins_resolve hmanifest "/work" "/b.js" "site/blog/post.vyu").single_iff.2 ?_⟩
  -- The path begins with a slash, but an emitted file stands for it.
  rintro ⟨-, hdev | hnone⟩
  · cases hdev
  · exact absurd hnone (by decide)

/-- A directive can carry a path that begins with a slash, and in a build its URL then names a
    host. -/
theorem resolve_siteAbsolute :
    (Registry.builtIn.match? "importCSS('/a.css')").map (·.1.path) = some "/a.css".toList ∧
      (∀ m ∈ CompileOptions.plain.manifest, isAbsolute m.2 = false) ∧
      resolve "/" "/a.css" "index.vyu" CompileOptions.plain = "//a.css".toList ∧
      ¬ ∃ rest, resolve "/" "/a.css" "index.vyu" CompileOptions.plain =
        base CompileOptions.plain ++ '/' :: rest ∧ isAbsolute rest = false := by
  refine ⟨by decide +kernel, nofun, rfl, ?_⟩
  rintro ⟨rest, heq, hrest⟩
  obtain rfl : "/a.css".toList = rest := (List.cons.inj heq).2
  cases hrest

end AssetUrl
end PageLoom
