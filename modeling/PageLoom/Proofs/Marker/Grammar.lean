import PageLoom.Proofs.Marker.Balance

set_option autoImplicit false

/-! # What closes a marker

The tokens of a text, said by rules instead of by a reader (`Reads`), and the doubled brace that
closes a marker, said by the grammar of what may stand before it (`Closes`). The scan counts depths
instead of following the grammar. At depth `n` it looks for the end of nested tokens that `n`
closing braces divide (`Climbs`); each token moves it between depths the way one rule of the grammar
extends such tokens, so that both accept the same texts (`scan_follows_grammar`). -/

namespace PageLoom
namespace Marker

/-! ## The rules of reading -/

/-- A text without an unescaped `quote`: backslashes, each with the character it escapes, and other
    characters that are not the quote. -/
inductive Unquoted (quote : Char) : Text → Prop where
  | nil : Unquoted quote []
  | escaped (c : Char) {t : Text} : Unquoted quote t → Unquoted quote ('\\' :: c :: t)
  | plain {c : Char} {t : Text} (hquote : c ≠ quote) (hslash : c ≠ '\\') :
      Unquoted quote t → Unquoted quote (c :: t)

/-- What a text reads as, from left to right. -/
inductive Reads : Text → List Token → Prop where
  | nil : Reads [] []
  | opening {rest : Text} {ks : List Token} :
      Reads rest ks → Reads (Marker.opening ++ rest) (.opening :: ks)
  | closing {rest : Text} {ks : List Token} :
      Reads rest ks → Reads (Marker.closing ++ rest) (.closing :: ks)
  /-- A literal ends at the next quote of its kind that is not escaped. -/
  | literal {quote : Char} {inner rest : Text} {ks : List Token} (hquote : isQuote quote)
      (hinner : Unquoted quote inner) :
      Reads rest ks →
        Reads (quote :: (inner ++ quote :: rest)) (.literal (quote :: (inner ++ [quote])) true :: ks)
  /-- A literal without such a quote runs to the end of the text. -/
  | unclosed {quote : Char} {t : Text} (hquote : isQuote quote)
      (hnone : ∀ inner rest, Unquoted quote inner → t ≠ inner ++ quote :: rest) :
      Reads (quote :: t) [.literal (quote :: t) false]
  | single {c : Char} {rest : Text} {ks : List Token} (hquote : isQuote c = false)
      (hopening : ¬ Marker.opening <+: c :: rest) (hclosing : ¬ Marker.closing <+: c :: rest) :
      Reads rest ks → Reads (c :: rest) (.single c :: ks)

/-- A literal is cut at the first quote that is not escaped. -/
theorem cutLiteral?_of_unquoted {quote : Char} {inner : Text} (hquote : quote ≠ '\\')
    (h : Unquoted quote inner) (after : Text) :
    cutLiteral? quote (inner ++ quote :: after) = some (inner ++ [quote], after) := by
  induction h with
  | nil => rw [List.nil_append, cutLiteral?_cons_of_ne hquote, if_pos rfl, List.nil_append]
  | escaped c _ ih => simp [cutLiteral?, ih]
  | plain hne hslash _ ih =>
      rw [List.cons_append, cutLiteral?_cons_of_ne hslash, if_neg hne, ih]
      rfl

theorem exists_unquoted_of_cutLiteral? {quote : Char} {t inside after : Text}
    (h : cutLiteral? quote t = some (inside, after)) :
    ∃ inner, Unquoted quote inner ∧ inside = inner ++ [quote] ∧ t = inner ++ quote :: after := by
  fun_induction cutLiteral? quote t generalizing inside after with
  | case1 => simp at h
  | case2 c rest ih =>
      obtain ⟨⟨inside', after'⟩, hcut, heq⟩ := Option.map_eq_some_iff.1 h
      obtain ⟨rfl, rfl⟩ := Prod.mk.inj heq
      obtain ⟨inner, hinner, rfl, rfl⟩ := ih hcut
      exact ⟨'\\' :: c :: inner, .escaped c hinner, rfl, rfl⟩
  | case3 rest hesc =>
      obtain ⟨rfl, rfl⟩ := Prod.mk.inj (Option.some.inj h)
      exact ⟨[], .nil, rfl, rfl⟩
  | case4 c rest hesc hne ih =>
      obtain ⟨⟨inside', after'⟩, hcut, heq⟩ := Option.map_eq_some_iff.1 h
      obtain ⟨rfl, rfl⟩ := Prod.mk.inj heq
      obtain ⟨inner, hinner, rfl, rfl⟩ := ih hcut
      -- A backslash here would have had a character behind it to escape.
      have hslash : c ≠ '\\' := by
        rintro rfl
        cases inner with
        | nil => exact hesc quote after' rfl rfl
        | cons d inner => exact hesc d (inner ++ quote :: after') rfl rfl
      exact ⟨c :: inner, .plain hne hslash hinner, rfl, rfl⟩

/-- Nothing is cut exactly when every quote of the kind is escaped. -/
theorem cutLiteral?_eq_none_iff {quote : Char} (hquote : quote ≠ '\\') (t : Text) :
    cutLiteral? quote t = none ↔
      ∀ inner rest, Unquoted quote inner → t ≠ inner ++ quote :: rest := by
  constructor
  · rintro h inner rest hinner rfl
    rw [cutLiteral?_of_unquoted hquote hinner rest] at h
    cases h
  · intro h
    refine Option.eq_none_iff_forall_ne_some.2 ?_
    rintro ⟨inside, after⟩ hcut
    obtain ⟨inner, hinner, -, heq⟩ := exists_unquoted_of_cutLiteral? hcut
    exact h inner after hinner heq

theorem tokens_unclosed {c : Char} {rest : Text} (hc : isQuote c)
    (h : cutLiteral? c rest = none) : tokens (c :: rest) = [.literal (c :: rest) false] := by
  have hbrace := isQuote_ne_brace hc
  rw [tokens]
  · rw [if_pos hc]
    split
    · next inner after h' => exact absurd (h.symm.trans h') (by simp)
    · rfl
  · exact fun _ hc' => absurd hc' hbrace.1
  · exact fun _ hc' => absurd hc' hbrace.2

/-- A text is read as its tokens, and as nothing else. -/
theorem reads_iff (t : Text) (ks : List Token) : Reads t ks ↔ tokens t = ks := by
  constructor
  · intro h
    induction h with
    | nil => rw [tokens]
    | opening _ ih => rw [← ih]; exact tokens_opening _
    | closing _ ih => rw [← ih]; exact tokens_closing _
    | @literal quote inner rest ks hquote hinner _ ih =>
        have hcut := cutLiteral?_of_unquoted (isQuote_ne_backslash hquote) hinner rest
        rw [tokens_literal hquote hcut, ih]
    | unclosed hquote hnone =>
        exact tokens_unclosed hquote
          ((cutLiteral?_eq_none_iff (isQuote_ne_backslash hquote) _).2 hnone)
    | @single c rest ks hquote hopening hclosing _ ih =>
        rw [← ih]
        refine tokens_single hquote ?_ ?_
        · rintro rfl hhead
          obtain ⟨r, rfl⟩ := List.head?_eq_some_iff.1 hhead
          exact hopening ⟨r, rfl⟩
        · rintro rfl hhead
          obtain ⟨r, rfl⟩ := List.head?_eq_some_iff.1 hhead
          exact hclosing ⟨r, rfl⟩
  · rintro rfl
    fun_induction tokens t with
    | case1 => exact .nil
    | case2 rest ih => exact .opening ih
    | case3 rest ih => exact .closing ih
    | case4 c rest hopening hclosing hc inside after hcut ih =>
        obtain ⟨inner, hinner, rfl, rfl⟩ := exists_unquoted_of_cutLiteral? hcut
        exact .literal hc hinner ih
    | case5 c rest hopening hclosing hc hcut =>
        exact .unclosed hc ((cutLiteral?_eq_none_iff (isQuote_ne_backslash hc) rest).1 hcut)
    | case6 c rest hopening hclosing hc ih =>
        refine .single (by simpa using hc) ?_ ?_ ih
        · rintro ⟨r, heq⟩
          obtain ⟨rfl, rfl⟩ := List.cons.inj heq
          exact hopening r rfl rfl
        · rintro ⟨r, heq⟩
          obtain ⟨rfl, rfl⟩ := List.cons.inj heq
          exact hclosing r rfl rfl

/-! ## Depth and nesting -/

/-- Nested tokens, divided by as many closing braces as the depth says. -/
inductive Climbs : Nat → List Token → Prop where
  | nested {ks : List Token} : Nested ks → Climbs 0 ks
  | closing {depth : Nat} {inner ks : List Token} :
      Nested inner → Climbs depth ks → Climbs (depth + 1) (inner ++ .closing :: ks)

/-- What may stand before nested tokens may stand before the first of several. -/
theorem Climbs.prepend {depth : Nat} {ks : List Token} (h : Climbs depth ks) (front : List Token)
    (hfront : ∀ inner, Nested inner → Nested (front ++ inner)) : Climbs depth (front ++ ks) := by
  cases h with
  | nested hks => exact .nested (hfront _ hks)
  | closing hinner hks =>
      rw [← List.append_assoc]
      exact .closing (hfront _ hinner) hks

/-- An opening brace takes the first of the closing braces for itself. -/
theorem Climbs.marker {depth : Nat} {ks : List Token} (h : Climbs (depth + 1) ks) :
    Climbs depth (.opening :: ks) := by
  cases h with
  | @closing _ inner ks hinner hks =>
      have hfront := hks.prepend (.opening :: (inner ++ [.closing]))
        fun after hafter => by simpa using Nested.marker hinner hafter
      simpa using hfront

/-- The scan passes over nested tokens and one closing brace for each depth. -/
theorem closeIn_of_climbs {depth : Nat} {ks : List Token} (h : Climbs depth ks)
    (after : List Token) :
    closeIn depth (ks ++ .closing :: after) = some (ks.flatMap Token.text).length := by
  induction h with
  | nested hks => simp [closeIn_append_of_nested hks, closeIn]
  | closing hinner _ ih =>
      rw [List.append_assoc, closeIn_append_of_nested hinner, List.cons_append, closeIn, ih]
      simp
      omega

/-- At any depth, the scan stops exactly where that many nested texts end. -/
theorem closeIn_eq_some_iff (depth : Nat) (ks : List Token) (p : Nat) :
    closeIn depth ks = some p ↔
      ∃ before after, ks = before ++ .closing :: after ∧ Climbs depth before ∧
        p = (before.flatMap Token.text).length := by
  constructor
  · intro h
    fun_induction closeIn depth ks generalizing p with
    | case1 => simp at h
    | case2 rest => exact ⟨[], rest, rfl, .nested .nil, by simpa using h.symm⟩
    | case3 depth rest ih =>
        obtain ⟨q, hq, rfl⟩ := Option.map_eq_some_iff.1 h
        obtain ⟨before, after, rfl, hbefore, rfl⟩ := ih q hq
        exact ⟨.closing :: before, after, rfl, .closing .nil hbefore, by simp⟩
    | case4 depth rest ih =>
        obtain ⟨q, hq, rfl⟩ := Option.map_eq_some_iff.1 h
        obtain ⟨before, after, rfl, hbefore, rfl⟩ := ih q hq
        exact ⟨.opening :: before, after, rfl, hbefore.marker, by simp⟩
    | case5 depth c rest ih =>
        obtain ⟨q, hq, rfl⟩ := Option.map_eq_some_iff.1 h
        obtain ⟨before, after, rfl, hbefore, rfl⟩ := ih q hq
        have hsingle := hbefore.prepend [.single c] fun _ => .single c
        exact ⟨.single c :: before, after, rfl, hsingle, by simp⟩
    | case6 depth t closed rest ih =>
        obtain ⟨q, hq, rfl⟩ := Option.map_eq_some_iff.1 h
        obtain ⟨before, after, rfl, hbefore, rfl⟩ := ih q hq
        have hliteral := hbefore.prepend [.literal t closed] fun _ => .literal t closed
        refine ⟨.literal t closed :: before, after, rfl, hliteral, ?_⟩
        simp
        omega
  · rintro ⟨before, after, rfl, hbefore, rfl⟩
    exact closeIn_of_climbs hbefore after

/-! ## The grammar -/

/-- The doubled brace at `p` closes the marker whose inner text begins at `start`: read from there
    on, the text is nested tokens, this brace, and anything. -/
def Closes (text : Text) (start p : Nat) : Prop :=
  ∃ inner after, Reads (text.drop start) (inner ++ .closing :: after) ∧ Nested inner ∧
    p = start + (inner.flatMap Token.text).length

theorem close?_eq_some_iff (text : Text) (start p : Nat) :
    close? text start = some p ↔ Closes text start p := by
  simp only [close?, scan_eq_closeIn, Option.map_eq_some_iff, closeIn_eq_some_iff, Closes, reads_iff]
  constructor
  · rintro ⟨q, ⟨inner, after, htokens, ⟨hinner⟩, rfl⟩, rfl⟩
    exact ⟨inner, after, htokens, hinner, Nat.add_comm _ _⟩
  · rintro ⟨inner, after, htokens, hinner, rfl⟩
    exact ⟨_, ⟨inner, after, htokens, .nested hinner, rfl⟩, Nat.add_comm _ _⟩

/-- **The scan accepts its grammar.** A marker is closed where the grammar closes it, which is at
    one place at most, and stays open if there is none, as it does at the end of the text. -/
theorem scan_follows_grammar (text : Text) (start : Nat) :
    (∀ p, close? text start = some p ↔ Closes text start p) ∧
      (∀ p q, Closes text start p → Closes text start q → p = q) ∧
      (close? text start = none ↔ ¬ ∃ p, Closes text start p) ∧
      (text.length ≤ start → close? text start = none) := by
  refine ⟨close?_eq_some_iff text start, fun p q hp hq => ?_, ?_, fun hlen => ?_⟩
  · rw [← close?_eq_some_iff] at hp hq
    exact Option.some.inj (hp.symm.trans hq)
  · simp only [← close?_eq_some_iff, Option.eq_none_iff_forall_ne_some, not_exists, ne_eq]
  · rw [close?, List.drop_eq_nil_of_le hlen]
    rfl

/-- A marker with single braces beside doubled ones, and a literal that holds half of one. -/
def braces : Text :=
  "x " ++ opening ++ " '" ++ closing ++ "' " ++ ['}'] ++ " " ++ closing ++ closing ++ ['}'] ++ " \""

theorem closes_braces :
    Closes braces 2 14 ∧ (∀ q, Closes braces 2 q → 14 = q) ∧ ¬ (∃ p, Closes braces 16 p) ∧
      braces.length ≤ 19 ∧ close? braces 19 = none := by
  have hcloses : Closes braces 2 14 := ((scan_follows_grammar braces 2).1 14).1 (by decide)
  exact ⟨hcloses, fun q => (scan_follows_grammar braces 2).2.1 14 q hcloses,
    (scan_follows_grammar braces 16).2.2.1.1 (by decide), by decide,
    (scan_follows_grammar braces 19).2.2.2 (by decide)⟩

end Marker
end PageLoom
