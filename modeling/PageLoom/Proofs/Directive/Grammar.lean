import PageLoom.Directive
import PageLoom.Proofs.Text.Trim

set_option autoImplicit false

/-! # The grammar of import directives

A directive is spelled as a name, an opening parenthesis, a path in quotes with blanks around it,
and a closing parenthesis. The matcher reads exactly the spellings of the names it knows
(`match?_eq_some_iff`), whatever characters the path is made of. A text is the spelling of one call
only (`Spelling.text_injective`): each part ends where the first character stands that it cannot
hold. -/

namespace PageLoom
namespace Directive

/-! ## Spellings -/

/-- Names begin with an ASCII letter, an underscore or a dollar sign and go on with word characters
    and dollar signs. -/
def IsName : Text → Prop
  | [] => False
  | c :: rest =>
      (('a' ≤ c ∧ c ≤ 'z') ∨ ('A' ≤ c ∧ c ≤ 'Z') ∨ c = '_' ∨ c = '$') ∧
        ∀ d ∈ rest, Text.isWord d ∨ d = '$'

/-- A call as it is written. -/
@[ext]
structure Spelling where
  name : Text
  /-- The blanks before the path. -/
  before : Text
  quote : Char
  path : Text
  /-- The blanks behind the path. -/
  after : Text
  isName : IsName name
  blank_before : ∀ c ∈ before, Text.isBlank c
  isQuote : quote = '"' ∨ quote = '\''
  quote_notMem : quote ∉ path
  backslash_notMem : '\\' ∉ path
  blank_after : ∀ c ∈ after, Text.isBlank c

namespace Spelling

/-- What is written. -/
def text (s : Spelling) : Text :=
  s.name ++ '(' :: (s.before ++ s.quote :: (s.path ++ s.quote :: (s.after ++ [')'])))

/-- What is meant. -/
def call (s : Spelling) : Call := ⟨s.name, s.path⟩

end Spelling

/-! ## Names -/

theorem isNameStart_iff (c : Char) :
    isNameStart c ↔ ('a' ≤ c ∧ c ≤ 'z') ∨ ('A' ≤ c ∧ c ≤ 'Z') ∨ c = '_' ∨ c = '$' := by
  have hle : ∀ d d' : Char, d ≤ d' ↔ d.toNat ≤ d'.toNat := fun _ _ => Iff.rfl
  simp only [isNameStart, Bool.or_eq_true, Text.isAlpha_iff, decide_eq_true_eq, hle,
    Char.reduceToNat]
  rw [or_assoc, or_assoc, or_left_comm]

theorem isNameRest_iff (c : Char) : isNameRest c ↔ Text.isWord c ∨ c = '$' := by
  simp [isNameRest]

theorem isName_cons_iff (c : Char) (rest : Text) :
    IsName (c :: rest) ↔ isNameStart c ∧ ∀ d ∈ rest, isNameRest d := by
  simp only [IsName, isNameStart_iff, isNameRest_iff]

/-- A name ends before a parenthesis. -/
theorem isNameRest_parenthesis : isNameRest '(' = false := by decide +kernel

theorem not_isBlank_of_isNameStart {c : Char} (h : isNameStart c) : Text.isBlank c = false := by
  -- The letters lie between the first visible character and the last.
  have hletter : ∀ {low high : Char}, '!' ≤ low → high ≤ '~' → low ≤ c → c ≤ high →
      Text.isBlank c = false := by
    intro low high hlow hhigh hc hc'
    exact Text.not_isBlank_of_bounds (Char.le_trans hlow hc) (Char.le_trans hc' hhigh)
  rcases (isNameStart_iff c).1 h with ⟨hc, hc'⟩ | ⟨hc, hc'⟩ | rfl | rfl
  · exact hletter (by decide) (by decide) hc hc'
  · exact hletter (by decide) (by decide) hc hc'
  · decide
  · decide

theorem not_isBlank_of_quote {quote : Char} (h : quote = '"' ∨ quote = '\'') :
    Text.isBlank quote = false := by
  rcases h with rfl | rfl <;> decide

/-! ## Reading -/

/-- The class of the characters that a path in these quotes may hold. -/
def staysInside (quote c : Char) : Bool := c ≠ quote ∧ c ≠ '\\'

theorem staysInside_of_notMem {quote : Char} {path : Text} (hquote : quote ∉ path)
    (hslash : '\\' ∉ path) : ∀ c ∈ path, staysInside quote c := by
  intro c hc
  simp only [staysInside, decide_eq_true_eq]
  exact ⟨fun h => hquote (h ▸ hc), fun h => hslash (h ▸ hc)⟩

theorem staysInside_self (quote : Char) : staysInside quote quote = false := by
  simp [staysInside]

theorem takePath?_cons {quote : Char} (hquote : quote = '"' ∨ quote = '\'') (t : Text) :
    takePath? (quote :: t) =
      match t.dropWhile (staysInside quote) with
      | c :: rest => if c = quote then some (t.takeWhile (staysInside quote), rest) else none
      | [] => none := by
  rw [← Text.drop_length_takeWhile, takePath?, if_pos hquote]
  rfl

/-- A path is taken exactly when it stands between two quotes of one kind. -/
theorem takePath?_eq_some_iff (t path rest : Text) :
    takePath? t = some (path, rest) ↔
      ∃ quote, (quote = '"' ∨ quote = '\'') ∧ quote ∉ path ∧ '\\' ∉ path ∧
        t = quote :: (path ++ quote :: rest) := by
  constructor
  · intro h
    match t with
    | [] => simp [takePath?] at h
    | quote :: t =>
        by_cases hquote : quote = '"' ∨ quote = '\''
        · rw [takePath?_cons hquote] at h
          match hrest : t.dropWhile (staysInside quote) with
          | [] => simp [hrest] at h
          | c :: after =>
              simp only [hrest, Option.ite_none_right_eq_some, Option.some.injEq,
                Prod.mk.injEq] at h
              obtain ⟨rfl, rfl, rfl⟩ := h
              have hinside := Text.all_takeWhile (staysInside c) t
              refine ⟨c, hquote, ?_, ?_, ?_⟩
              · intro hc
                simpa [staysInside] using hinside c hc
              · intro hc
                simpa [staysInside] using hinside _ hc
              · rw [← hrest, List.takeWhile_append_dropWhile]
        · simp [takePath?, hquote] at h
  · rintro ⟨quote, hquote, hnot, hslash, rfl⟩
    have hinside := staysInside_of_notMem hnot hslash
    rw [takePath?_cons hquote, Text.dropWhile_run hinside (staysInside_self quote),
      Text.takeWhile_run hinside (staysInside_self quote)]
    simp

/-- Blanks before something else are one run. -/
theorem trimStart_eq_iff {t rest : Text} {c : Char} (hc : Text.isBlank c = false) :
    Text.trimStart t = c :: rest ↔
      ∃ blanks, (∀ d ∈ blanks, Text.isBlank d) ∧ t = blanks ++ c :: rest := by
  constructor
  · intro h
    refine ⟨t.takeWhile Text.isBlank, Text.all_takeWhile Text.isBlank t, ?_⟩
    rw [← h, Text.trimStart_append_dropped]
  · rintro ⟨blanks, hblank, rfl⟩
    exact Text.dropWhile_run hblank hc rest

/-- What is read is spelled. -/
theorem exists_spelling_of_read? {raw : Text} {call : Call} (h : read? raw = some call) :
    ∃ s : Spelling, Text.trim raw = s.text ∧ call = s.call := by
  rw [read?] at h
  split at h
  · simp at h
  next c rest htrim =>
    by_cases hstart : isNameStart c
    · rw [if_neg (by simp [hstart])] at h
      split at h
      next inside hparen =>
        simp only [Option.bind_eq_bind, Option.bind_eq_some_iff, Prod.exists] at h
        obtain ⟨path, outside, htake, h⟩ := h
        split at h
        next hclose =>
          obtain ⟨quote, hquote, hnot, hslash, hinside⟩ := (takePath?_eq_some_iff ..).1 htake
          -- What was passed over on both sides of the path are blanks.
          obtain ⟨before, hbefore, rfl⟩ :=
            (trimStart_eq_iff (not_isBlank_of_quote hquote)).1 hinside
          obtain ⟨after, hafter, rfl⟩ := (trimStart_eq_iff (by decide)).1 hclose
          have hname : IsName (c :: rest.takeWhile isNameRest) :=
            (isName_cons_iff ..).2 ⟨hstart, Text.all_takeWhile isNameRest rest⟩
          refine ⟨⟨c :: rest.takeWhile isNameRest, before, quote, path, after, hname, hbefore,
            hquote, hnot, hslash, hafter⟩, ?_, (Option.some.inj h).symm⟩
          rw [htrim, Spelling.text, List.cons_append, ← hparen, List.takeWhile_append_dropWhile]
        · simp at h
      · simp at h
    · rw [if_pos (by simp [hstart])] at h
      simp at h

/-- What is spelled is read. -/
theorem read?_of_spelling {raw : Text} (s : Spelling) (htrim : Text.trim raw = s.text) :
    read? raw = some s.call := by
  obtain ⟨name, before, quote, path, after, hname, hbefore, hquote, hnot, hslash, hafter⟩ := s
  match name, hname with
  | c :: rest, hname =>
      obtain ⟨hstart, hrest⟩ := (isName_cons_iff c rest).1 hname
      have hpath : Text.trimStart (before ++ quote :: (path ++ quote :: (after ++ [')']))) =
          quote :: (path ++ quote :: (after ++ [')'])) :=
        (trimStart_eq_iff (not_isBlank_of_quote hquote)).2 ⟨before, hbefore, rfl⟩
      have htake := (takePath?_eq_some_iff _ path (after ++ [')'])).2
        ⟨quote, hquote, hnot, hslash, rfl⟩
      have hclose : Text.trimStart (after ++ [')']) = [')'] :=
        (trimStart_eq_iff (by decide)).2 ⟨after, hafter, rfl⟩
      rw [Spelling.text, List.cons_append] at htrim
      simp only [read?, htrim, Text.takeWhile_run hrest isNameRest_parenthesis,
        Text.dropWhile_run hrest isNameRest_parenthesis, hpath, htake, hstart, not_true_eq_false,
        if_false, Option.bind_eq_bind, Option.bind_some, hclose, Spelling.call]

theorem read?_eq_some_iff (raw : Text) (call : Call) :
    read? raw = some call ↔ ∃ s : Spelling, Text.trim raw = s.text ∧ call = s.call := by
  constructor
  · exact exists_spelling_of_read?
  · rintro ⟨s, htrim, rfl⟩
    exact read?_of_spelling s htrim

/-! ## One reading only -/

namespace Spelling

/-- **A text spells one call only**, and in one way. -/
theorem text_injective {s s' : Spelling} (h : s.text = s'.text) : s = s' := by
  obtain ⟨name, before, quote, path, after, hname, hbefore, hquote, hnot, hslash, hafter⟩ := s
  obtain ⟨name', before', quote', path', after', hname', hbefore', hquote', hnot', hslash',
    hafter'⟩ := s'
  match name, name', hname, hname' with
  | c :: rest, c' :: rest', hname, hname' =>
      obtain ⟨hstart, hrest⟩ := (isName_cons_iff c rest).1 hname
      obtain ⟨hstart', hrest'⟩ := (isName_cons_iff c' rest').1 hname'
      simp only [text, List.cons_append, List.cons.injEq] at h
      obtain ⟨rfl, h⟩ := h
      -- The name ends at the parenthesis, the blanks at the quote and the path at the next one.
      obtain ⟨rfl, -, h⟩ := Text.run_injective hrest hrest' isNameRest_parenthesis
        isNameRest_parenthesis h
      obtain ⟨rfl, rfl, h⟩ := Text.run_injective hbefore hbefore' (not_isBlank_of_quote hquote)
        (not_isBlank_of_quote hquote') h
      obtain ⟨rfl, -, h⟩ := Text.run_injective (staysInside_of_notMem hnot hslash)
        (staysInside_of_notMem hnot' hslash') (staysInside_self quote) (staysInside_self quote) h
      obtain rfl := List.append_cancel_right h
      rfl

/-- Trimming takes the blanks around a spelling and nothing of it. -/
theorem trim_text (s : Spelling) {before after : Text} (hbefore : ∀ c ∈ before, Text.isBlank c)
    (hafter : ∀ c ∈ after, Text.isBlank c) : Text.trim (before ++ s.text ++ after) = s.text := by
  obtain ⟨c, rest, hname, hstart⟩ : ∃ c rest, s.name = c :: rest ∧ isNameStart c := by
    have hname := s.isName
    match s.name, hname with
    | c :: rest, hname => exact ⟨c, rest, rfl, ((isName_cons_iff c rest).1 hname).1⟩
  refine Text.trim_framed hbefore hafter (c := c) (d := ')') ?_
    (not_isBlank_of_isNameStart hstart) ?_ (by decide)
  · simp [text, hname]
  · simp [text, List.getLast?_append, List.getLast?_cons]

end Spelling
end Directive

/-! ## Known names -/

namespace Registry

open Directive

theorem match?_eq_some_iff (registry : Registry) (raw : Text) (call : Call) (d : Directive) :
    registry.match? raw = some (call, d) ↔
      ∃ s : Spelling, Text.trim raw = s.text ∧ call = s.call ∧ registry.get? s.name = some d := by
  simp only [match?, Option.bind_eq_bind, Option.bind_eq_some_iff, read?_eq_some_iff,
    Option.pure_def, Option.some.injEq, Prod.mk.injEq]
  constructor
  · rintro ⟨_, ⟨s, htrim, rfl⟩, _, hget, rfl, rfl⟩
    exact ⟨s, htrim, rfl, hget⟩
  · rintro ⟨s, htrim, rfl, hget⟩
    exact ⟨s.call, ⟨s, htrim, rfl⟩, d, hget, rfl, rfl⟩

/-- **The matcher accepts exactly the grammar.** A text is matched if and only if, blanks around it
    apart, it is the spelling of a known name with a path. It is the spelling of nothing else, so
    that a printed call is read back as it was; and no other text is matched. -/
theorem match?_grammar (registry : Registry) (raw : Text) :
    (∀ call d, registry.match? raw = some (call, d) ↔
      ∃ s : Spelling, Text.trim raw = s.text ∧ call = ⟨s.name, s.path⟩ ∧
        registry.get? s.name = some d) ∧
    (∀ s s' : Spelling, Text.trim raw = s.text → Text.trim raw = s'.text → s = s') ∧
    (∀ (s : Spelling) (d : Directive) (before after : Text), (∀ c ∈ before, Text.isBlank c) →
      (∀ c ∈ after, Text.isBlank c) → registry.get? s.name = some d →
        registry.match? (before ++ s.text ++ after) = some (⟨s.name, s.path⟩, d)) ∧
    (registry.match? raw = none ↔
      ∀ s : Spelling, Text.trim raw = s.text → registry.get? s.name = none) := by
  refine ⟨match?_eq_some_iff registry raw, ?_, ?_, ?_⟩
  · intro s s' hs hs'
    exact Spelling.text_injective (hs.symm.trans hs')
  · intro s d before after hbefore hafter hget
    exact (match?_eq_some_iff ..).2 ⟨s, s.trim_text hbefore hafter, rfl, hget⟩
  · constructor
    · intro hnone s htrim
      rw [Option.eq_none_iff_forall_ne_some]
      intro d hget
      have hsome := (match?_eq_some_iff registry raw s.call d).2 ⟨s, htrim, rfl, hget⟩
      simp [hnone] at hsome
    · intro hnone
      rw [Option.eq_none_iff_forall_ne_some]
      rintro ⟨call, d⟩ hmatch
      obtain ⟨s, htrim, -, hget⟩ := (match?_eq_some_iff registry raw call d).1 hmatch
      simp [hnone s htrim] at hget

end Registry
end PageLoom
