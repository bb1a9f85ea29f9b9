import Mathlib.Data.List.Infix
import PageLoom.Marker

set_option autoImplicit false

/-! # The tokens of a marker

What a text inside a marker reads as, from left to right: string literals, doubled braces and
single characters. The scan for the end of a marker counts characters; read over tokens it only
counts nesting (`scan_eq_closeIn`). Texts may be cut between tokens, as long as neither a literal
nor a doubled brace is cut in two (`tokens_append`). -/

namespace PageLoom
namespace Marker

/-! ## Reading -/

/-- A token. -/
inductive Token where
  /-- A string literal with its quotes; one that is not closed runs to the end of the text. -/
  | literal (text : Text) (closed : Bool)
  /-- `{{` -/
  | opening
  /-- `}}` -/
  | closing
  /-- Any other character. -/
  | single (c : Char)
  deriving DecidableEq, Repr

/-- The text of a token. -/
def Token.text : Token → Text
  | literal t _ => t
  | opening => Marker.opening
  | closing => Marker.closing
  | single c => [c]

@[simp] theorem Token.text_literal (t : Text) (closed : Bool) : (literal t closed).text = t := rfl

@[simp] theorem Token.text_opening : Token.opening.text = ['{', '{'] := rfl

@[simp] theorem Token.text_closing : Token.closing.text = ['}', '}'] := rfl

@[simp] theorem Token.text_single (c : Char) : (single c).text = [c] := rfl

/-- What is left of a literal that opened with `quote`, with the quote that closes it, and what
    follows the literal; nothing if it is not closed. -/
def cutLiteral? (quote : Char) : Text → Option (Text × Text)
  | [] => none
  | '\\' :: c :: rest =>
      (cutLiteral? quote rest).map fun (inner, after) => ('\\' :: c :: inner, after)
  | c :: rest =>
      if c = quote then some ([c], rest)
      else (cutLiteral? quote rest).map fun (inner, after) => (c :: inner, after)

theorem cutLiteral?_cons_of_ne {quote c : Char} (h : c ≠ '\\') (rest : Text) :
    cutLiteral? quote (c :: rest) =
      if c = quote then some ([c], rest)
      else (cutLiteral? quote rest).map fun (inner, after) => (c :: inner, after) := by
  rw [cutLiteral?]
  exact fun _ _ hc => absurd hc h

/-- A literal and what follows it are the text. -/
theorem append_of_cutLiteral? {quote : Char} {t inner after : Text}
    (h : cutLiteral? quote t = some (inner, after)) : inner ++ after = t := by
  fun_induction cutLiteral? quote t generalizing inner after with
  | case1 => simp at h
  | case2 c rest ih =>
      obtain ⟨⟨inner', after'⟩, hcut, heq⟩ := Option.map_eq_some_iff.1 h
      obtain ⟨rfl, rfl⟩ := Prod.mk.inj heq
      simp [ih hcut]
  | case3 rest hesc =>
      obtain ⟨rfl, rfl⟩ := Prod.mk.inj (Option.some.inj h)
      rfl
  | case4 c rest hesc hne ih =>
      obtain ⟨⟨inner', after'⟩, hcut, heq⟩ := Option.map_eq_some_iff.1 h
      obtain ⟨rfl, rfl⟩ := Prod.mk.inj heq
      simp [ih hcut]

/-- What follows a literal does not matter for where it is closed. -/
theorem cutLiteral?_append {quote : Char} (hquote : quote ≠ '\\') {t inner after : Text}
    (h : cutLiteral? quote t = some (inner, after)) (more : Text) :
    cutLiteral? quote (t ++ more) = some (inner, after ++ more) := by
  fun_induction cutLiteral? quote t generalizing inner after with
  | case1 => simp at h
  | case2 c rest ih =>
      obtain ⟨⟨inner', after'⟩, hcut, heq⟩ := Option.map_eq_some_iff.1 h
      obtain ⟨rfl, rfl⟩ := Prod.mk.inj heq
      simp [cutLiteral?, ih hcut]
  | case3 rest hesc =>
      obtain ⟨rfl, rfl⟩ := Prod.mk.inj (Option.some.inj h)
      rw [List.cons_append, cutLiteral?_cons_of_ne hquote, if_pos rfl]
  | case4 c rest hesc hne ih =>
      obtain ⟨⟨inner', after'⟩, hcut, heq⟩ := Option.map_eq_some_iff.1 h
      obtain ⟨rfl, rfl⟩ := Prod.mk.inj heq
      -- A backslash with a character behind it is the second case; alone it closes nothing.
      have hslash : c ≠ '\\' := by
        rintro rfl
        cases rest with
        | nil => simp [cutLiteral?] at hcut
        | cons d rest => exact hesc d rest rfl rfl
      rw [List.cons_append, cutLiteral?_cons_of_ne hslash, if_neg hne, ih hcut]
      rfl

theorem length_le_of_cutLiteral? {quote : Char} {t inner after : Text}
    (h : cutLiteral? quote t = some (inner, after)) : after.length ≤ t.length := by
  rw [← append_of_cutLiteral? h, List.length_append]
  omega

/-- The tokens of a text. -/
def tokens : Text → List Token
  | [] => []
  | '{' :: '{' :: rest => .opening :: tokens rest
  | '}' :: '}' :: rest => .closing :: tokens rest
  | c :: rest =>
      if isQuote c then
        match _hcut : cutLiteral? c rest with
        | some (inner, after) => .literal (c :: inner) true :: tokens after
        | none => [.literal (c :: rest) false]
      else .single c :: tokens rest
termination_by t => t.length
decreasing_by
  · simp only [List.length_cons]
    omega
  · simp only [List.length_cons]
    omega
  · exact Nat.lt_succ_of_le (length_le_of_cutLiteral? _hcut)
  · exact Nat.lt_succ_self rest.length

theorem tokens_opening (rest : Text) : tokens ('{' :: '{' :: rest) = .opening :: tokens rest := by
  rw [tokens]

theorem tokens_closing (rest : Text) : tokens ('}' :: '}' :: rest) = .closing :: tokens rest := by
  rw [tokens]

theorem isQuote_ne_brace {c : Char} (h : isQuote c) : c ≠ '{' ∧ c ≠ '}' := by
  constructor <;> rintro rfl <;> simp [isQuote] at h

theorem isQuote_ne_backslash {c : Char} (h : isQuote c) : c ≠ '\\' := by
  rintro rfl
  simp [isQuote] at h

theorem tokens_literal {c : Char} {rest inner after : Text} (hc : isQuote c)
    (h : cutLiteral? c rest = some (inner, after)) :
    tokens (c :: rest) = .literal (c :: inner) true :: tokens after := by
  have hbrace := isQuote_ne_brace hc
  rw [tokens]
  · rw [if_pos hc]
    split
    · next inner' after' h' =>
        obtain ⟨rfl, rfl⟩ := Prod.mk.inj (Option.some.inj (h.symm.trans h'))
        rfl
    · next h' => exact absurd (h.symm.trans h') (by simp)
  · exact fun _ hc' => absurd hc' hbrace.1
  · exact fun _ hc' => absurd hc' hbrace.2

theorem tokens_single {c : Char} {rest : Text} (hc : isQuote c = false)
    (hopen : c = '{' → rest.head? ≠ some '{') (hclose : c = '}' → rest.head? ≠ some '}') :
    tokens (c :: rest) = .single c :: tokens rest := by
  rw [tokens]
  · rw [if_neg (by simp [hc])]
  · rintro _ rfl rfl
    exact hopen rfl rfl
  · rintro _ rfl rfl
    exact hclose rfl rfl

/-- Nothing is lost in reading. -/
theorem flatMap_text_tokens (t : Text) : (tokens t).flatMap Token.text = t := by
  fun_induction tokens t with
  | case1 => rfl
  | case2 rest ih => simp [ih]
  | case3 rest ih => simp [ih]
  | case4 c rest _ _ hc inner after h ih =>
      rw [List.flatMap_cons, ih, Token.text_literal, List.cons_append, append_of_cutLiteral? h]
  | case5 c rest _ _ hc h => simp
  | case6 c rest _ _ hc ih => simp [ih]

/-! ## Cutting between tokens -/

/-- A literal that is not closed. -/
def Token.isOpenLiteral : Token → Bool
  | literal _ closed => !closed
  | _ => false

/-- The text `t` completes neither the last literal nor the last brace of the tokens. -/
structure Apart (ks : List Token) (t : Text) : Prop where
  literal : ∀ k ∈ ks, k.isOpenLiteral = false
  opening : ks.getLast? = some (.single '{') → t.head? ≠ some '{'
  closing : ks.getLast? = some (.single '}') → t.head? ≠ some '}'

theorem Apart.tail {k : Token} {ks : List Token} {t : Text} (h : Apart (k :: ks) t) :
    Apart ks t where
  literal k' hk' := h.literal k' (List.mem_cons_of_mem k hk')
  opening hlast := h.opening (by simp [List.getLast?_cons, hlast])
  closing hlast := h.closing (by simp [List.getLast?_cons, hlast])

/-- A brace at the end of a text stays single before a text that is apart from it. -/
theorem Apart.head?_ne {c : Char} {rest t : Text} (h : Apart (.single c :: tokens rest) t)
    (hbrace : c = '{' ∨ c = '}') (hrest : rest.head? ≠ some c) : (rest ++ t).head? ≠ some c := by
  cases rest with
  | cons d rest => exact hrest
  | nil =>
      rcases hbrace with rfl | rfl
      · exact h.opening (by simp [tokens])
      · exact h.closing (by simp [tokens])

/-- Where two texts are apart, reading them together is reading them one after the other. -/
theorem tokens_append {s t : Text} (h : Apart (tokens s) t) :
    tokens (s ++ t) = tokens s ++ tokens t := by
  fun_induction tokens s with
  | case1 => rfl
  | case2 rest ih =>
      rw [List.cons_append, List.cons_append, tokens_opening, ih h.tail, List.cons_append]
  | case3 rest ih =>
      rw [List.cons_append, List.cons_append, tokens_closing, ih h.tail, List.cons_append]
  | case4 c rest _ _ hc inner after hcut ih =>
      have hcut' := cutLiteral?_append (isQuote_ne_backslash hc) hcut t
      rw [List.cons_append, tokens_literal hc hcut', ih h.tail, List.cons_append]
  | case5 c rest _ _ hc hcut =>
      -- An open literal would go on into the second text.
      have hopen := h.literal _ (List.mem_singleton_self _)
      simp [Token.isOpenLiteral] at hopen
  | case6 c rest hne hne' hc ih =>
      have hhead : ∀ d, (∀ r, rest = d :: r → False) → rest.head? ≠ some d := by
        rintro d hd hrest
        obtain ⟨r, rfl⟩ := List.head?_eq_some_iff.1 hrest
        exact hd r rfl
      rw [List.cons_append, tokens_single (by simpa using hc), ih h.tail, List.cons_append]
      · rintro rfl
        exact h.head?_ne (Or.inl rfl) (hhead _ fun r => hne r rfl)
      · rintro rfl
        exact h.head?_ne (Or.inr rfl) (hhead _ fun r => hne' r rfl)

/-! ## The scan over tokens -/

/-- Offset of the token that closes the marker which the tokens follow, inside `depth` nested
    markers. -/
def closeIn : Nat → List Token → Option Nat
  | _, [] => none
  | 0, .closing :: _ => some 0
  | depth + 1, .closing :: rest => (closeIn depth rest).map (· + 2)
  | depth, .opening :: rest => (closeIn (depth + 1) rest).map (· + 2)
  | depth, .single _ :: rest => (closeIn depth rest).map (· + 1)
  | depth, .literal t _ :: rest => (closeIn depth rest).map (· + t.length)

/-- Inside a literal the scan looks for its end and nothing else. -/
theorem scan_literal {quote : Char} (hquote : isQuote quote) (depth : Nat) (t : Text) :
    scan (some quote) depth t =
      (cutLiteral? quote t).bind fun (inner, after) =>
        (scan none depth after).map (· + inner.length) := by
  have hslash := isQuote_ne_backslash hquote
  fun_induction cutLiteral? quote t with
  | case1 => rfl
  | case2 c rest ih =>
      rw [scan, ih]
      cases cutLiteral? quote rest with
      | none => rfl
      | some cut => simp [Option.map_map, Function.comp_def, Nat.add_assoc]
  | case3 rest hesc =>
      rw [scan]
      · simp
      · exact fun hc => absurd hc hslash
      · exact fun _ _ hc => absurd hc hslash
  | case4 c rest hesc hne ih =>
      -- The scan also ends after a lone backslash, where the cut finds nothing.
      by_cases hend : c = '\\' ∧ rest = []
      · obtain ⟨rfl, rfl⟩ := hend
        simp [scan, cutLiteral?]
      · rw [scan, if_neg hne, ih]
        · cases cutLiteral? quote rest with
          | none => rfl
          | some cut => simp [Option.map_map, Function.comp_def, Nat.add_assoc]
        · exact fun hc hrest => hend ⟨hc, hrest⟩
        · exact hesc

/-- One character that is not the first of a doubled brace. -/
theorem scan_single {c : Char} {rest : Text} (depth : Nat)
    (hopen : ∀ r, c = '{' → rest = '{' :: r → False)
    (hclose : ∀ r, c = '}' → rest = '}' :: r → False) :
    scan none depth (c :: rest) =
      (scan (if isQuote c then some c else none) depth rest).map (· + 1) := by
  rw [scan]
  · exact hopen
  · exact fun r _ => hclose r
  · exact fun _ r _ => hclose r

/-- Over tokens, the scan only counts nesting. -/
theorem scan_eq_closeIn (depth : Nat) (t : Text) : scan none depth t = closeIn depth (tokens t) := by
  fun_induction tokens t generalizing depth with
  | case1 => cases depth <;> rfl
  | case2 rest ih => rw [scan, closeIn, ih]
  | case3 rest ih =>
      cases depth with
      | zero => rfl
      | succ depth => rw [scan, closeIn, ih]
  | case4 c rest hopen hclose hc inner after hcut ih =>
      rw [scan_single depth hopen hclose, if_pos hc, scan_literal hc, hcut, closeIn]
      simp [ih, Option.map_map, Function.comp_def, Nat.add_assoc]
  | case5 c rest hopen hclose hc hcut =>
      rw [scan_single depth hopen hclose, if_pos hc, scan_literal hc, hcut]
      simp [closeIn]
  | case6 c rest hopen hclose hc ih =>
      rw [scan_single depth hopen hclose, if_neg hc, ih, closeIn]

end Marker
end PageLoom
