import PageLoom.Directive

set_option autoImplicit false

/-! # Filling a pattern with one field

A pattern that is plain but for the field `url`, as the tags of directives are, is filled by putting
the URL into the place of the field. So no tag of a built-in directive fails, whatever the URL. -/

namespace PageLoom
namespace Placeholder

/-- No part of a field and no doubled brace. -/
def IsPlain (t : Text) : Prop := ∀ c ∈ t, c ≠ '{' ∧ c ≠ '}'

instance (t : Text) : Decidable (IsPlain t) := List.decidableBAll _ t

/-- Plain text is copied. -/
theorem go_append_of_plain {plain : Text} (h : IsPlain plain) (arguments : List (Text × Argument))
    (depth fuel : Nat) (rest : Text) :
    fillAt.go arguments depth (fuel + plain.length) (plain ++ rest) =
      (fillAt.go arguments depth fuel rest).map (plain ++ ·) := by
  induction plain with
  | nil =>
      rw [List.length_nil, Nat.add_zero, List.nil_append]
      cases fillAt.go arguments depth fuel rest <;> rfl
  | cons c plain ih =>
      obtain ⟨hopen, hclose⟩ := h c (List.mem_cons_self ..)
      rw [List.length_cons, ← Nat.add_assoc, List.cons_append, fillAt.go]
      · rw [ih fun d hd => h d (List.mem_cons_of_mem _ hd)]
        cases fillAt.go arguments depth fuel rest <;> rfl
      all_goals simp [hopen, hclose]

/-- Plain text without anything behind it. -/
theorem go_of_plain {plain : Text} (h : IsPlain plain) (arguments : List (Text × Argument))
    (depth fuel : Nat) :
    fillAt.go arguments depth (fuel + 1 + plain.length) plain = .ok plain := by
  have happend := go_append_of_plain h arguments depth (fuel + 1) []
  rw [List.append_nil, fillAt.go] at happend
  · rw [happend, Except.map, List.append_nil]
  · simp

theorem takeField_url (after : Text) :
    takeField ('u' :: 'r' :: 'l' :: '}' :: after) = .ok (⟨"url", none, []⟩, after) := by
  rfl

/-- The field is replaced by its argument. -/
theorem go_url (url : Text) (depth fuel : Nat) (after : Text) :
    fillAt.go [("url", .text url)] depth (fuel + 1) ('{' :: 'u' :: 'r' :: 'l' :: '}' :: after) =
      (fillAt.go [("url", .text url)] depth fuel after).map (url ++ ·) := by
  have hargument : argumentOf [("url", .text url)] ⟨"url", none, []⟩ = .ok (.text url) := by rfl
  rw [fillAt.go, takeField_url]
  · simp only [bind, Except.bind, hargument]
    cases fillAt.go [("url", .text url)] depth fuel after <;> rfl
  all_goals simp

/-- One field between plain texts. -/
theorem fill_url {before after : Text} (hbefore : IsPlain before) (hafter : IsPlain after)
    (url : Text) :
    fill [("url", .text url)] (before ++ ('{' :: 'u' :: 'r' :: 'l' :: '}' :: after)) =
      .ok (before ++ (url ++ after)) := by
  have hfuel : (before ++ ('{' :: 'u' :: 'r' :: 'l' :: '}' :: after)).length + 1 =
      4 + 1 + after.length + 1 + before.length := by
    simp only [List.length_append, List.length_cons]
    omega
  rw [fill, fillAt, hfuel, go_append_of_plain hbefore, go_url, go_of_plain hafter]
  rfl

end Placeholder

/-- The tag of a directive whose pattern is plain but for the URL. -/
theorem Directive.render_url {before after : Text} (hbefore : Placeholder.IsPlain before)
    (hafter : Placeholder.IsPlain after) (kind : AssetKind) (url : Text) :
    render ⟨kind, before ++ ('{' :: 'u' :: 'r' :: 'l' :: '}' :: after)⟩ url =
      .ok (before ++ (url ++ after)) :=
  Placeholder.fill_url hbefore hafter url

/-- Every tag of the registry can be filled, whatever the URL. -/
def Registry.Renders (registry : Registry) : Prop :=
  ∀ raw call d, registry.match? raw = some (call, d) → ∀ url, ∃ tag, d.render url = .ok tag

/-- A recognised directive is registered under some name. -/
theorem Registry.exists_of_match? {registry : Registry} {raw : Text} {call : Directive.Call}
    {d : Directive} (h : registry.match? raw = some (call, d)) : ∃ name, (name, d) ∈ registry := by
  simp only [match?, get?, member?, Option.bind_eq_bind, Option.bind_eq_some_iff,
    Option.map_eq_some_iff, Option.pure_def, Option.some.injEq, Prod.mk.injEq] at h
  obtain ⟨_, _, _, ⟨entry, hfind, rfl⟩, _, rfl⟩ := h
  exact ⟨entry.1, List.mem_of_find?_eq_some hfind⟩

/-- The tags of the built-in directives are plain but for the URL. -/
theorem Registry.builtIn_renders : Registry.Renders .builtIn := by
  intro raw call d hmatch url
  obtain ⟨name, hmem⟩ := exists_of_match? hmatch
  simp only [builtIn, List.mem_cons, Prod.mk.injEq, List.not_mem_nil, or_false] at hmem
  rcases hmem with ⟨-, rfl⟩ | ⟨-, rfl⟩
  · exact ⟨_, @Directive.render_url "<link rel=\"stylesheet\" href=\"" "\">" (by decide)
      (by decide) .stylesheet url⟩
  · exact ⟨_, @Directive.render_url "<script type=\"module\" src=\"" "\"></script>" (by decide)
      (by decide) .script url⟩

end PageLoom
