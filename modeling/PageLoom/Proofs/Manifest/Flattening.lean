import PageLoom.Manifest
import PageLoom.Proofs.Json.Members

set_option autoImplicit false

/-! # What a flat mapping keeps of a manifest

A flat mapping has one file to a path, but a manifest may have more to say of one: a source may come
with several stylesheets, which all belong under one path, and that path may be a source's own. Then
the last thing said counts (`member?_flatten`), so of several stylesheets the mapping keeps the
last, and of two entries that name a path the later one is heard. Nothing is lost exactly if a
manifest never says two things of one path (`losesNothing_iff`). -/

namespace PageLoom
namespace Manifest

variable {m before after : Manifest} {source path file : Text} {e : ManifestEntry}

/-! ## What a manifest says -/

/-- All that a manifest says, in its order. -/
def mappings (m : Manifest) : List (Text × Text) :=
  m.flatMap fun entry => mappingsOf entry.1 entry.2

theorem flatten_eq :
    flatten m = (mappings m).foldl (fun known p => setMember p.1 p.2 known) [] := rfl

theorem mem_mappingsOf_iff :
    (path, file) ∈ mappingsOf source e ↔
      path = source ∧ file = e.file ∨ path = companion source ∧ file ∈ e.css := by
  rw [mappingsOf, List.mem_cons, Prod.mk.injEq]
  refine or_congr_right ?_
  rw [List.mem_map]
  constructor
  · rintro ⟨css, hcss, hpair⟩
    cases hpair
    exact ⟨rfl, hcss⟩
  · rintro ⟨rfl, hcss⟩
    exact ⟨file, hcss, rfl⟩

theorem mem_mappings_iff :
    (path, file) ∈ mappings m ↔ ∃ source e, (source, e) ∈ m ∧
      (path = source ∧ file = e.file ∨ path = companion source ∧ file ∈ e.css) := by
  rw [mappings, List.mem_flatMap, Prod.exists]
  simp only [mem_mappingsOf_iff]

theorem companion_injective : Function.Injective companion :=
  fun _ _ h => List.append_cancel_right h

theorem companion_ne (source : Text) : companion source ≠ source := by
  intro h
  have hlength := congrArg List.length h
  simp [companion] at hlength

/-- Whether an entry says anything of a path. -/
def Names (entry : Text × ManifestEntry) (path : Text) : Prop :=
  path = entry.1 ∨ path = companion entry.1 ∧ entry.2.css ≠ []

theorem member?_reverse_map (values : List Text) (key : Text) :
    member? path (values.map fun v => (key, v)).reverse =
      if path = key then values.getLast? else none := by
  rw [← List.map_reverse, ← List.head?_reverse]
  induction values.reverse with
  | nil => simp
  | cons v rest ih =>
      rw [List.map_cons, member?_cons, ih]
      by_cases h : path = key
      · simp [h]
      · simp [h, Ne.symm h]

/-- The last thing that an entry says of a path: its stylesheets are named behind its file. -/
theorem member?_reverse_mappingsOf :
    member? path (mappingsOf source e).reverse =
      (if path = companion source then e.css.getLast? else none).or
        (if path = source then some e.file else none) := by
  rw [mappingsOf, List.reverse_cons, member?_append, member?_reverse_map, member?_cons,
    member?_nil]
  simp only [eq_comm]

theorem member?_reverse_mappingsOf_eq_none_iff :
    member? path (mappingsOf source e).reverse = none ↔ ¬ Names (source, e) path := by
  rw [member?_reverse_mappingsOf, Option.or_eq_none_iff, Names, not_or, not_and, not_not, and_comm]
  by_cases hsource : path = source <;> by_cases hcompanion : path = companion source <;>
    simp [hsource, hcompanion]

theorem member?_reverse_mappings_eq_none_iff :
    member? path (mappings m).reverse = none ↔ ∀ entry ∈ m, ¬ Names entry path := by
  induction m with
  | nil => simp [mappings]
  | cons entry rest ih =>
      have hcons : (mappings (entry :: rest)).reverse =
          (mappings rest).reverse ++ (mappingsOf entry.1 entry.2).reverse := List.reverse_append
      rw [hcons, member?_append, Option.or_eq_none_iff, ih,
        member?_reverse_mappingsOf_eq_none_iff, List.forall_mem_cons, and_comm]

/-! ## The flat mapping -/

/-- **The last thing said of a path counts.** -/
theorem member?_flatten : member? path (flatten m) = member? path (mappings m).reverse := by
  rw [flatten_eq, member?_foldl_setMember, member?_nil, Option.or_none]

theorem nodup_flatten : ((flatten m).map Prod.fst).Nodup := nodup_foldl_setMember List.nodup_nil

/-- A path that no later entry names leads to the last thing said by the entry. -/
theorem member?_flatten_of_last (hsplit : m = before ++ (source, e) :: after)
    (hlast : ∀ entry ∈ after, ¬ Names entry path) :
    member? path (flatten m) =
      (member? path (mappingsOf source e).reverse).or (member? path (flatten before)) := by
  have hsaid : (mappings m).reverse =
      (mappings after).reverse ++
        ((mappingsOf source e).reverse ++ (mappings before).reverse) := by
    rw [hsplit, mappings, List.flatMap_append, List.flatMap_cons, List.reverse_append,
      List.reverse_append, List.append_assoc]
    rfl
  rw [member?_flatten, member?_flatten, hsaid, member?_append, member?_append,
    member?_reverse_mappings_eq_none_iff.2 hlast, Option.none_or]

/-- Whatever is said of a path, the mapping keeps something that is. -/
theorem exists_kept (h : (path, file) ∈ mappings m) :
    ∃ kept, member? path (flatten m) = some kept ∧ (path, kept) ∈ mappings m := by
  have hsome : member? path (flatten m) ≠ none := by
    rw [member?_flatten, Ne, member?_eq_none_iff, not_not, List.map_reverse, List.mem_reverse]
    exact List.mem_map_of_mem h
  obtain ⟨kept, hkept⟩ := Option.ne_none_iff_exists'.1 hsome
  refine ⟨kept, hkept, ?_⟩
  rw [member?_flatten] at hkept
  exact List.mem_reverse.1 (mem_of_member? hkept)

/-! ## What is lost -/

/-- Every source leads to its own file, and every stylesheet is found under its source's path. -/
def LosesNothing (m : Manifest) (mapping : List (Text × Text)) : Prop :=
  ∀ source e, (source, e) ∈ m → member? source mapping = some e.file ∧
    ∀ css ∈ e.css, member? (companion source) mapping = some css

/-- No source comes with two different stylesheets, nor with one under a path that is the source of
    another file. -/
structure Unambiguous (m : Manifest) : Prop where
  stylesheets : ∀ source e, (source, e) ∈ m → ∀ css ∈ e.css, ∀ css' ∈ e.css, css = css'
  sources : ∀ source e e', (source, e) ∈ m → (companion source, e') ∈ m →
    ∀ css ∈ e.css, css = e'.file

/-- A mapping that loses nothing has one thing to say of each path. -/
theorem LosesNothing.unambiguous {mapping : List (Text × Text)} (h : LosesNothing m mapping) :
    Unambiguous m where
  stylesheets source e he css hcss css' hcss' :=
    Option.some.inj (((h source e he).2 css hcss).symm.trans ((h source e he).2 css' hcss'))
  sources source e e' he he' css hcss :=
    Option.some.inj (((h source e he).2 css hcss).symm.trans (h _ e' he').1)

/-- An unambiguous manifest says one thing of a path. -/
theorem Unambiguous.eq_of_mem (h : Unambiguous m) (hnodup : (m.map Prod.fst).Nodup) {file' : Text}
    (hfile : (path, file) ∈ mappings m) (hfile' : (path, file') ∈ mappings m) : file = file' := by
  have hsame : ∀ {source e e'}, (source, e) ∈ m → (source, e') ∈ m → e = e' := by
    intro source e e' he he'
    exact Option.some.inj ((member?_of_mem hnodup he).symm.trans (member?_of_mem hnodup he'))
  obtain ⟨source, e, he, hsaid⟩ := mem_mappings_iff.1 hfile
  obtain ⟨source', e', he', hsaid'⟩ := mem_mappings_iff.1 hfile'
  rcases hsaid with ⟨rfl, rfl⟩ | ⟨rfl, hcss⟩ <;> rcases hsaid' with ⟨hpath, rfl⟩ | ⟨hpath, hcss'⟩
  · subst hpath
    rw [hsame he he']
  · subst hpath
    exact (h.sources source' e' e he' he _ hcss').symm
  · subst hpath
    exact h.sources source e e' he he' _ hcss
  · obtain rfl := companion_injective hpath
    obtain rfl := hsame he he'
    exact h.stylesheets source e he _ hcss _ hcss'

/-- Nothing is lost unless two things are said of one path. -/
theorem losesNothing_iff (hnodup : (m.map Prod.fst).Nodup) :
    LosesNothing m (flatten m) ↔ Unambiguous m := by
  refine ⟨LosesNothing.unambiguous, fun h => ?_⟩
  have hkept : ∀ path file, (path, file) ∈ mappings m →
      member? path (flatten m) = some file := by
    intro path file hfile
    obtain ⟨kept, hkept, hmem⟩ := exists_kept hfile
    rw [hkept, h.eq_of_mem hnodup hmem hfile]
  intro source e he
  constructor
  · exact hkept _ _ (mem_mappings_iff.2 ⟨source, e, he, .inl ⟨rfl, rfl⟩⟩)
  · intro css hcss
    exact hkept _ _ (mem_mappings_iff.2 ⟨source, e, he, .inr ⟨rfl, hcss⟩⟩)

/-- What a flat mapping keeps of a manifest. -/
structure Flat (m : Manifest) (mapping : List (Text × Text)) : Prop where
  nodup : (mapping.map Prod.fst).Nodup
  /-- A source leads to its own file, unless an entry behind it has stylesheets of that path. -/
  file : ∀ before source e after, m = before ++ (source, e) :: after →
    (∀ other ∈ after, source = companion other.1 → other.2.css = []) →
      member? source mapping = some e.file
  /-- The path of a source's stylesheets leads to the last of them, unless it is the source of an
      entry behind. -/
  stylesheet : ∀ before source e after, m = before ++ (source, e) :: after → e.css ≠ [] →
    companion source ∉ after.map Prod.fst → member? (companion source) mapping = e.css.getLast?
  /-- Nothing leads anywhere but the paths that an entry names. -/
  named : ∀ path, (member? path mapping).isSome ↔ ∃ entry ∈ m, Names entry path
  /-- Nothing is lost unless two things are said of one path, and then no mapping keeps all. -/
  loses : LosesNothing m mapping ↔ Unambiguous m
  best : ∀ mapping', LosesNothing m mapping' → LosesNothing m mapping

/-- **A flat mapping keeps what one file to a path can keep.** The sources of a manifest are all
    different, but nothing else is asked of it. -/
theorem flat_flatten (hnodup : (m.map Prod.fst).Nodup) : Flat m (flatten m) where
  nodup := nodup_flatten
  file := by
    intro before source e after hsplit hlast
    have hdistinct : source ∉ after.map Prod.fst := by
      rw [hsplit, List.map_append, List.map_cons] at hnodup
      exact (List.nodup_cons.1 (List.nodup_append.1 hnodup).2.1).1
    have hunnamed : ∀ other ∈ after, ¬ Names other source := by
      rintro other hother (hsame | ⟨hcompanion, hcss⟩)
      · exact hdistinct (hsame ▸ List.mem_map_of_mem hother)
      · exact hcss (hlast other hother hcompanion)
    rw [member?_flatten_of_last hsplit hunnamed, member?_reverse_mappingsOf,
      if_neg (companion_ne source).symm, if_pos rfl]
    rfl
  stylesheet := by
    intro before source e after hsplit hcss hlast
    have hdistinct : source ∉ after.map Prod.fst := by
      rw [hsplit, List.map_append, List.map_cons] at hnodup
      exact (List.nodup_cons.1 (List.nodup_append.1 hnodup).2.1).1
    have hunnamed : ∀ other ∈ after, ¬ Names other (companion source) := by
      rintro other hother (hsame | ⟨hcompanion, -⟩)
      · exact hlast (hsame ▸ List.mem_map_of_mem hother)
      · exact hdistinct (companion_injective hcompanion ▸ List.mem_map_of_mem hother)
    obtain ⟨css, hlastCss⟩ := Option.ne_none_iff_exists'.1 (mt List.getLast?_eq_none_iff.1 hcss)
    rw [member?_flatten_of_last hsplit hunnamed, member?_reverse_mappingsOf, if_pos rfl, hlastCss]
    rfl
  named path := by
    rw [member?_flatten, ← not_iff_not, Bool.not_eq_true, Option.isSome_eq_false_iff,
      Option.isNone_iff_eq_none, member?_reverse_mappings_eq_none_iff]
    simp
  loses := losesNothing_iff hnodup
  best mapping' h := (losesNothing_iff hnodup).2 h.unambiguous

/-- A script with two stylesheets, and a source under the path of the stylesheets. -/
def crowded : Manifest :=
  [("a.ts", { file := "a.js", src := "a.ts", isEntry := true, css := ["x.css", "y.css"] }),
   ("a.ts.css", { file := "z.css", src := "", isEntry := false, css := [] })]

/-- The path that is claimed three times leads to the source that stands last. -/
theorem flat_crowded : (crowded.map Prod.fst).Nodup ∧ Flat crowded (flatten crowded) ∧
    member? "a.ts.css" (flatten crowded) = some "z.css" :=
  ⟨by decide, flat_flatten (by decide), by decide⟩

/-- A script with two stylesheets. -/
def paired : Manifest :=
  [("a.ts", { file := "a.js", src := "", isEntry := false, css := ["x.css", "y.css"] })]

/-- **A stylesheet can be lost**: of the two that come with the script, the first is found nowhere
    in the flat mapping. -/
theorem flatten_loses_paired :
    (paired.map Prod.fst).Nodup ∧ ¬ LosesNothing paired (flatten paired) := by
  refine ⟨by decide, fun h => ?_⟩
  have hcss := (h "a.ts" _ List.mem_cons_self).2 "x.css" (by simp)
  have hlast : member? (companion "a.ts") (flatten paired) = some "y.css" := by decide
  rw [hlast] at hcss
  exact absurd hcss (by decide)

end Manifest
end PageLoom
