import Mathlib.Data.List.TakeWhile
import PageLoom.PageValue
import PageLoom.Proofs.Decimal.Layout

set_option autoImplicit false

/-! # Numbers on pages and in scripts

Scripts write a number by the rule of their language: the shortest decimal, laid out around a point
or with an exponent (`IsScriptText`). Pages write whole numbers in full and other numbers as data
files do. Both texts begin with the same digits, and where they are the same text is settled for
every number (`alike_shown`): for whole numbers that the shortest decimal has exactly, and for other
numbers that are not small, or so small that the exponent has two digits anyway. -/

namespace PageLoom
namespace Decimal

variable {x : Magnitude} {d : Scaled} {n : ℕ} {j : ℤ}

/-! ## Whole numbers -/

theorem whole?_eq_some_iff : x.whole? = some n ↔ x.value = n := by
  have hden := fraction_pos x
  rw [value_eq_fraction, div_eq_iff (Nat.cast_ne_zero.2 hden.ne'), ← Nat.cast_mul, Nat.cast_inj]
  unfold Magnitude.whole?
  dsimp only
  split
  next hzero =>
    rw [Option.some.injEq, Nat.div_eq_iff_eq_mul_left hden (Nat.dvd_of_mod_eq_zero hzero)]
  next hrest =>
    refine ⟨nofun, fun h => absurd ?_ hrest⟩
    rw [h, Nat.mul_mod_left]

theorem value_ne_of_whole? (h : x.whole? = none) (n : ℕ) : x.value ≠ n := fun heq => by
  rw [whole?_eq_some_iff.2 heq] at h
  cases h

/-- A number with a fraction stands among the finer ones. -/
theorem exponent_neg (h : x.whole? = none) : x.exponent < 0 := by
  by_contra hge
  obtain ⟨m, hm⟩ := Int.eq_ofNat_of_zero_le (not_lt.1 hge)
  refine value_ne_of_whole? h (x.mantissa * 2 ^ m) ?_
  rw [Magnitude.value, hm, zpow_natCast]
  push_cast
  rfl

/-- No whole number is read as a number with a fraction. -/
theorem not_covers_whole (h : x.whole? = none) (n : ℕ) : ¬ x.Covers n := by
  intro hcovers
  have hgap := gap_pos x
  have hbelow := gapBelow_le x
  obtain ⟨p, hp⟩ : ∃ p : ℕ, x.exponent = -(p : ℕ) :=
    ⟨(-x.exponent).toNat, by have := exponent_neg h; omega⟩
  -- Both are counted in the gap, and the counts differ.
  have hcount : (n : ℚ) = (n * 2 ^ p : ℕ) * x.gap := by
    rw [Magnitude.gap, hp, zpow_neg, zpow_natCast]
    push_cast
    field_simp
  have hne : n * 2 ^ p ≠ x.mantissa := by
    intro heq
    exact value_ne_of_whole? h n (by rw [hcount, heq, value_eq_gap])
  have hvalue := value_eq_gap x
  rcases lt_or_gt_of_ne hne with hlt | hgt
  · have hstep : ((n * 2 ^ p + 1 : ℕ) : ℚ) * x.gap ≤ x.mantissa * x.gap :=
      mul_le_mul_of_nonneg_right (Nat.cast_le.2 hlt) hgap.le
    rw [Nat.cast_succ, add_mul, ← hcount, ← hvalue] at hstep
    rcases hcovers.above with h | ⟨h, -⟩ <;> linarith
  · have hstep : ((x.mantissa + 1 : ℕ) : ℚ) * x.gap ≤ (n * 2 ^ p : ℕ) * x.gap :=
      mul_le_mul_of_nonneg_right (Nat.cast_le.2 hgt) hgap.le
    rw [Nat.cast_succ, add_mul, ← hcount, ← hvalue] at hstep
    rcases hcovers.below with h | ⟨h, -⟩ <;> linarith

theorem gap_le_one (h : x.exponent ≤ 0) : x.gap ≤ 1 := zpow_le_one_of_nonpos₀ one_le_two h

theorem value_lt_of_exponent_nonpos (hx : x.Canonical) (h : x.exponent ≤ 0) :
    x.value < 2 ^ 53 := by
  have hmantissa : (x.mantissa : ℚ) < (2 ^ 53 : ℕ) := Nat.cast_lt.2 hx.small
  have hgap := gap_pos x
  have hone := gap_le_one h
  have hzero : (0 : ℚ) ≤ x.mantissa := Nat.cast_nonneg _
  rw [value_eq_gap]
  push_cast at hmantissa
  nlinarith

/-! ## The shortest decimal beside powers of ten -/

theorem le_lead_iff (hpos : 0 < d.digits) : j ≤ d.lead ↔ 10 ^ j ≤ d.value := by
  constructor
  · exact fun h => (ten_zpow_le_iff.2 h).trans (le_value hpos)
  · intro h
    have hlt := ten_zpow_lt_iff.1 (h.trans_lt (value_lt d))
    omega

section Shortest

variable (hx : x.Canonical) (hpos : 0 < x.mantissa) (hd : IsShortest x d)

include hx hpos hd

/-- A power of ten that does not exceed a number does not exceed its shortest decimal. -/
theorem ten_zpow_le_of_le (hle : 10 ^ j ≤ x.value) : 10 ^ j ≤ d.value := by
  by_contra hgreater
  have hlt : d.value < 10 ^ j := not_le.1 hgreater
  have hpower : (⟨1, j⟩ : Scaled).value = 10 ^ j := by simp [Scaled.value]
  have hreads : IsNearest (⟨1, j⟩ : Scaled).value x :=
    .of_covers hx (hpower ▸ (hd.covers hx hpos).between (covers_value x) hlt.le hle)
  have hsize : (⟨1, j⟩ : Scaled).size = d.size :=
    le_antisymm (size_pos d) (hd.least _ hreads)
  have hfar := hd.closest _ hreads hsize (hpower ▸ hlt.ne')
  rw [hpower, abs_sub_lt_abs_sub_iff_of_lt hlt, abs_sub_eq_abs_sub_iff hlt.ne] at hfar
  rcases hfar with hfar | ⟨hfar, -⟩ <;> linarith

/-- Where the number next to a power of ten is not below it, the first digit of the shortest decimal
    tells on which side of the power a number is. -/
theorem le_lead_iff_of_next {y : Magnitude} (hy : y.Canonical) (habove : 10 ^ j ≤ y.value)
    (hnear : 2 * (y.value - 10 ^ j) < y.gapBelow) : j ≤ d.lead ↔ 10 ^ j ≤ x.value := by
  rw [le_lead_iff (hd.digits_pos hx hpos)]
  refine ⟨fun h => ?_, ten_zpow_le_of_le hx hpos hd⟩
  by_contra hgreater
  have hlt : x.value < 10 ^ j := not_le.1 hgreater
  have hcovers := (covers_value x).between (hd.covers hx hpos) hlt.le h
  have hbelow := hlt.trans_le habove
  have hfar := le_sub_gapBelow hy hx hbelow
  have hnearest := IsNearest.of_covers hx hcovers y hy hbelow.ne'
  rw [abs_sub_lt_abs_sub_iff_of_lt hbelow, abs_sub_eq_abs_sub_iff hbelow.ne] at hnearest
  rcases hnearest with h | ⟨h, -⟩ <;> linarith

/-- The shortest decimal of a number with a fraction has a fraction. -/
theorem exponent_neg_of_whole? (h : x.whole? = none) : d.exponent < 0 := by
  by_contra hge
  obtain ⟨m, hm⟩ := Int.eq_ofNat_of_zero_le (not_lt.1 hge)
  refine not_covers_whole h (d.digits * 10 ^ m) ?_
  have hcovers := hd.covers hx hpos
  rw [Scaled.value, hm, zpow_natCast] at hcovers
  push_cast
  exact hcovers

/-- A number with a fraction has at most sixteen digits before the point. -/
theorem lead_lt_of_whole? (h : x.whole? = none) : d.lead < 16 := by
  by_contra hge
  have hlarge : (10 : ℚ) ^ (16 : ℤ) ≤ d.value :=
    (le_lead_iff (hd.digits_pos hx hpos)).1 (not_lt.1 hge)
  have hsmall := value_lt_of_exponent_nonpos hx (exponent_neg h).le
  have hcovers := (covers_value x).between (hd.covers hx hpos) (q := 10 ^ (16 : ℤ))
    (hsmall.le.trans (by norm_num)) hlarge
  refine not_covers_whole h (10 ^ 16) ?_
  push_cast
  exact_mod_cast hcovers

/-- The number next to `10 ^ (-4)` is a little above it. -/
theorem neg_four_le_lead_iff : -4 ≤ d.lead ↔ 10 ^ (-4 : ℤ) ≤ x.value := by
  refine le_lead_iff_of_next hx hpos hd (y := ⟨7378697629483821, -66, false⟩)
    ⟨by decide, by decide, fun _ => by decide, by decide⟩ ?_ ?_ <;>
      norm_num [Magnitude.value, Magnitude.gapBelow, Magnitude.gap]

/-- The number next to `10 ^ (-9)` is a little above it. -/
theorem neg_nine_le_lead_iff : -9 ≤ d.lead ↔ 10 ^ (-9 : ℤ) ≤ x.value := by
  refine le_lead_iff_of_next hx hpos hd (y := ⟨4835703278458517, -82, false⟩)
    ⟨by decide, by decide, fun _ => by decide, by decide⟩ ?_ ?_ <;>
      norm_num [Magnitude.value, Magnitude.gapBelow, Magnitude.gap]

/-! ## Where both texts are the same -/

/-- A number with a fraction looks the same on pages and in scripts, unless its exponent on pages is
    not one in scripts, or has one digit there. -/
theorem layout_data_eq_iff (h : x.whole? = none) :
    dataNotation.layout d = scriptNotation.layout d ↔
      10 ^ (-4 : ℤ) ≤ x.value ∨ x.value < 10 ^ (-9 : ℤ) := by
  have hdigits := hd.digits_pos hx hpos
  have hfraction := exponent_neg_of_whole? hx hpos hd h
  have hlead := lead_lt_of_whole? hx hpos hd h
  rw [← neg_four_le_lead_iff hx hpos hd, ← not_le, ← neg_nine_le_lead_iff hx hpos hd]
  rcases lt_or_ge d.lead (-4) with hsmall | hplain
  · have hdata : dataNotation.layout d = scientific 2 d := by
      rw [layout_eq _ hdigits]
      exact if_neg fun h => absurd h.1 (not_le.2 hsmall)
    rw [hdata]
    rcases lt_or_ge d.lead (-6) with hfar | hnear
    · rw [layout_script_of_far hdigits (.inl hfar), scientific_two_eq_iff]
      omega
    · rw [layout_script_of_near hdigits hnear (by omega)]
      refine ⟨fun h => absurd h.symm (positional_ne_scientific false 2 d d), fun h => ?_⟩
      omega
  · have hdata : dataNotation.layout d = positional true d := by
      rw [layout_eq _ hdigits]
      exact if_pos ⟨hplain, hlead⟩
    rw [hdata, layout_script_of_near hdigits (by omega) (by omega), positional_of_neg hfraction]
    exact ⟨fun _ => .inl hplain, fun _ => rfl⟩

/-- The shortest decimal of a whole number is whole: the number itself is a decimal with as few
    digits that has none behind the point. -/
theorem exponent_nonneg_of_value_eq (hvalue : x.value = n) : 0 ≤ d.exponent := by
  have hself : (⟨n, 0⟩ : Scaled).value = x.value := by simp [Scaled.value, hvalue]
  have hn : 0 < (⟨n, 0⟩ : Scaled).digits :=
    value_pos_iff.1 (hself ▸ (covers_value x).pos hpos)
  have hleast := hd.least ⟨n, 0⟩ (.of_covers hx (hself ▸ covers_value x))
  have hlead := (le_lead_iff (hd.digits_pos hx hpos)).2
    (ten_zpow_le_of_le hx hpos hd (hself ▸ le_value hn))
  unfold Scaled.lead at hlead
  dsimp only at hlead
  omega

/-- The shortest decimal of a whole number as a natural number. -/
theorem value_eq_natCast (hvalue : x.value = n) :
    d.value = (d.digits * 10 ^ d.exponent.toNat : ℕ) := by
  rw [Scaled.value]
  push_cast
  rw [← zpow_natCast, Int.toNat_of_nonneg (exponent_nonneg_of_value_eq hx hpos hd hvalue)]

/-- Every whole number below `2 ^ 53` is its own shortest decimal: no other one is as near as
    its neighbours are. -/
theorem value_eq_of_lt (hvalue : x.value = n) (hlt : n < 2 ^ 53) : d.value = n := by
  have hexponent : x.exponent ≤ 0 := by
    by_contra hpositive
    have hfull : ((2 ^ 52 : ℕ) : ℚ) ≤ x.mantissa := Nat.cast_le.2 (hx.full (by omega))
    have hgap : (2 : ℚ) ^ (1 : ℤ) ≤ x.gap := zpow_le_zpow_right₀ one_le_two (by omega)
    have hsmall : (n : ℚ) < (2 ^ 53 : ℕ) := Nat.cast_lt.2 hlt
    rw [← hvalue, value_eq_gap] at hsmall
    push_cast at hfull hsmall
    nlinarith
  have hgap := gap_le_one hexponent
  have hbelow := gapBelow_le x
  have hcovers := hd.covers hx hpos
  have hnatural := value_eq_natCast hx hpos hd hvalue
  generalize d.digits * 10 ^ d.exponent.toNat = m at hnatural
  rw [hnatural] at hcovers ⊢
  have hnot_above : ¬ n + 1 ≤ m := fun h => by
    have hcast : ((n + 1 : ℕ) : ℚ) ≤ m := Nat.cast_le.2 h
    push_cast at hcast
    rcases hcovers.below with h | ⟨h, -⟩ <;> linarith
  have hnot_below : ¬ m + 1 ≤ n := fun h => by
    have hcast : ((m + 1 : ℕ) : ℚ) ≤ n := Nat.cast_le.2 h
    push_cast at hcast
    rcases hcovers.above with h | ⟨h, -⟩ <;> linarith
  exact congrArg _ (by omega : m = n)

/-- A whole number looks the same on pages and in scripts, if its shortest decimal is the number
    itself and does not have an exponent. -/
theorem ofNat_eq_layout_iff (hvalue : x.value = n) :
    Text.ofNat n = scriptNotation.layout d ↔ n < 10 ^ 21 ∧ d.value = n := by
  have hdigits := hd.digits_pos hx hpos
  have hexponent := exponent_nonneg_of_value_eq hx hpos hd hvalue
  have hnatural := value_eq_natCast hx hpos hd hvalue
  have hlead : 0 ≤ d.lead := by
    have hsize := size_pos d
    unfold Scaled.lead
    omega
  have hlarge : d.lead < 21 ↔ d.value < 10 ^ 21 := by
    rw [← not_le, le_lead_iff hdigits, not_le]
    norm_cast
  constructor
  · intro h
    have hnear : d.lead < 21 := by
      by_contra hfar
      rw [layout_script_of_far hdigits (.inr (not_lt.1 hfar))] at h
      exact not_mem_digits rfl (h ▸ mem_scientific 1 d)
    rw [layout_script_of_near hdigits (by omega) hnear, positional_of_nonneg hdigits hexponent] at h
    have hsame : d.value = n := hnatural.trans (congrArg _ (Text.ofNat_injective h).symm)
    refine ⟨?_, hsame⟩
    have hless := hlarge.1 hnear
    rw [hsame] at hless
    exact_mod_cast hless
  · rintro ⟨hless, hsame⟩
    have hnear : d.lead < 21 := hlarge.2 (by rw [hsame]; exact_mod_cast hless)
    rw [layout_script_of_near hdigits (by omega) hnear, positional_of_nonneg hdigits hexponent]
    congr 1
    exact_mod_cast hsame.symm.trans hnatural

end Shortest

/-! ## Floats -/

/-- The text that scripts give a number: `0` for both zeros, and otherwise the digits of the
    shortest decimal by the rule for digits, behind a sign. -/
inductive IsScriptText (negative : Bool) (x : Magnitude) : Text → Prop
  | zero (hzero : x.mantissa = 0) : IsScriptText negative x "0"
  | number {d : Scaled} {t : Text} (hpos : 0 < x.mantissa) (hd : IsShortest x d)
      (ht : ScriptForm (Text.ofNat d.digits) (d.exponent + d.size) t) :
      IsScriptText negative x ((if negative then "-" else "") ++ t)

/-- The numbers that look the same on pages and in scripts. -/
inductive Magnitude.ShownAlike (x : Magnitude) : Prop
  | zero (hzero : x.mantissa = 0)
  | whole {n : ℕ} {d : Scaled} (hvalue : x.value = n) (hn : n < 10 ^ 21) (hd : IsShortest x d)
      (hexact : d.value = n)
  | fraction (hvalue : ∀ n : ℕ, x.value ≠ n)
      (hsize : 10 ^ (-4 : ℤ) ≤ x.value ∨ x.value < 10 ^ (-9 : ℤ))

section Float

variable {f : Float} {negative : Bool} {t : Text}

theorem isShortest_ofFloat (hf : Binary.ofFloat f = .finite negative x) (hpos : 0 < x.mantissa) :
    x.Canonical ∧ IsShortest x x.shortest := by
  obtain ⟨hx, hlarge⟩ := canonical_ofBits hf
  exact ⟨hx, isShortest_shortest hx hlarge hpos⟩

theorem write_of_pos (style : Notation) (hf : Binary.ofFloat f = .finite negative x)
    (hpos : 0 < x.mantissa) :
    style.write f = (if negative then "-" else "") ++ style.layout x.shortest := by
  simp only [Notation.write, hf, hpos.ne', if_false]

theorem numberText_of_zero (hf : Binary.ofFloat f = .finite negative x) (hzero : x.mantissa = 0) :
    Script.numberText f = "0" := by
  simp [Script.numberText, Notation.write, hf, hzero, scriptNotation]

/-- Scripts write numbers by the rule of their language. -/
theorem isScriptText_iff (hf : Binary.ofFloat f = .finite negative x) :
    IsScriptText negative x t ↔ t = Script.numberText f := by
  rcases Nat.eq_zero_or_pos x.mantissa with hzero | hpos
  · rw [numberText_of_zero hf hzero]
    constructor
    · rintro (⟨-⟩ | ⟨hpos⟩)
      · rfl
      · omega
    · rintro rfl
      exact .zero hzero
  · obtain ⟨hx, hshortest⟩ := isShortest_ofFloat hf hpos
    have hdigits := hshortest.digits_pos hx hpos
    rw [Script.numberText, write_of_pos _ hf hpos]
    constructor
    · rintro (⟨hzero⟩ | ⟨-, hd, ht⟩)
      · omega
      · rw [hd.unique hx hpos hshortest, scriptForm_iff hdigits] at ht
        rw [ht]
    · rintro rfl
      exact .number hpos hshortest ((scriptForm_iff hdigits).2 rfl)

theorem ofInt_signed (hn : 0 < n) :
    Text.ofInt (signed negative n) = (if negative then "-" else "") ++ Text.ofNat n := by
  obtain ⟨m, rfl⟩ : ∃ m, n = m + 1 := ⟨n - 1, by omega⟩
  cases negative <;> rfl

/-- **Where a number looks the same on pages and in scripts.** -/
theorem writePage_eq_iff (hf : Binary.ofFloat f = .finite negative x) :
    writePage f = Script.numberText f ↔ x.ShownAlike := by
  have hwhole : whole? f = x.whole?.map (signed negative) := by simp only [whole?, hf]
  unfold writePage
  rw [hwhole]
  rcases Nat.eq_zero_or_pos x.mantissa with hzero | hpos
  · have hself : x.whole? = some 0 := whole?_eq_some_iff.2 (by simp [Magnitude.value, hzero])
    have hplain : Text.ofInt (signed negative 0) = "0" := by cases negative <;> rfl
    rw [hself, numberText_of_zero hf hzero]
    exact iff_of_true hplain (.zero hzero)
  · obtain ⟨hx, hshortest⟩ := isShortest_ofFloat hf hpos
    rw [Script.numberText, write_of_pos scriptNotation hf hpos]
    cases hself : x.whole? with
    | some n =>
        have hvalue := whole?_eq_some_iff.1 hself
        have hn : 0 < n := Nat.cast_pos.1 (hvalue ▸ (covers_value x).pos hpos)
        dsimp only [Option.map_some]
        rw [ofInt_signed hn, List.append_cancel_left_eq,
          ofNat_eq_layout_iff hx hpos hshortest hvalue]
        constructor
        · rintro ⟨hless, hexact⟩
          exact .whole hvalue hless hshortest hexact
        · rintro (hzero | ⟨hvalue', hless, hd, hexact⟩ | hfraction)
          · omega
          · obtain rfl := Nat.cast_injective (hvalue.symm.trans hvalue')
            exact ⟨hless, hshortest.unique hx hpos hd ▸ hexact⟩
          · exact absurd hvalue (hfraction n)
    | none =>
        dsimp only [Option.map_none]
        rw [write_of_pos dataNotation hf hpos, List.append_cancel_left_eq,
          layout_data_eq_iff hx hpos hshortest hself]
        constructor
        · exact .fraction (value_ne_of_whole? hself)
        · rintro (hzero | ⟨hvalue⟩ | ⟨-, hsize⟩)
          · omega
          · exact absurd hvalue (value_ne_of_whole? hself _)
          · exact hsize

/-- Whole numbers below `2 ^ 53` look the same. -/
theorem shownAlike_of_lt (hf : Binary.ofFloat f = .finite negative x) (hvalue : x.value = n)
    (hlt : n < 2 ^ 53) : x.ShownAlike := by
  rcases Nat.eq_zero_or_pos x.mantissa with hzero | hpos
  · exact .zero hzero
  · obtain ⟨hx, hshortest⟩ := isShortest_ofFloat hf hpos
    exact .whole hvalue (by omega) hshortest (value_eq_of_lt hx hpos hshortest hvalue hlt)

end Float

end Decimal

namespace PageValue

open Decimal

/-- The values as which a number of a script reaches a page. -/
inductive Denotes (f : Float) : PageValue → Prop
  | float : Denotes f (.float f)
  | int {n : ℤ} (hn : whole? f = some n) : Denotes f (.int n)

variable {f : Float} {negative : Bool} {x : Magnitude} {value : PageValue}

theorem Denotes.shown_eq (h : Denotes f value) (convert : PageValue → Text) :
    value.shown convert = writePage f := by
  cases h with
  | float => rfl
  | int hn => simp only [shown, writePage, hn]

/-- **Numbers on pages and in scripts.** Scripts give each finite number the text of their
    language's rule and no other. Whether the number reaches the page as an integer or as a float,
    the page shows that text exactly if the number is zero, or whole, below `10 ^ 21` and its own
    shortest decimal, as every whole number below `2 ^ 53` is, or has a fraction and is not from
    `10 ^ (-9)` up to `10 ^ (-4)`. The same numbers may be put into a template text first without
    changing the page, whichever engine writes them there by the rule of the language. -/
theorem alike_shown (hf : Binary.ofFloat f = .finite negative x) (hvalue : Denotes f value)
    (convert : PageValue → Text) :
    (∀ t, IsScriptText negative x t ↔ t = Script.numberText f) ∧
      (value.shown convert = Script.numberText f ↔ x.ShownAlike) ∧
      (∀ t, IsScriptText negative x t →
        (value.shown convert = (PageValue.text t).shown convert ↔ x.ShownAlike)) ∧
      ∀ n : ℕ, x.value = n → n < 2 ^ 53 → x.ShownAlike := by
  have hshown : value.shown convert = Script.numberText f ↔ x.ShownAlike := by
    rw [hvalue.shown_eq convert, writePage_eq_iff hf]
  refine ⟨fun t => isScriptText_iff hf, hshown, fun t ht => ?_, fun n => shownAlike_of_lt hf⟩
  -- A text shows as it is, and there is only one by the rule.
  obtain rfl := (isScriptText_iff hf).1 ht
  exact hshown

theorem alike_shown_integer :
    Binary.ofFloat 42 = .finite false ⟨5910974510923776, -47, false⟩ ∧ Denotes 42 (.int 42) ∧
      (PageValue.int 42).shown plain = Script.numberText 42 := by
  have hf : Binary.ofFloat 42 = .finite false ⟨5910974510923776, -47, false⟩ := by decide +kernel
  have hvalue : Denotes 42 (.int 42) := .int (by decide +kernel)
  obtain ⟨-, hshown, -, hsmall⟩ := alike_shown hf hvalue plain
  exact ⟨hf, hvalue, hshown.2 (hsmall 42 (by norm_num [Magnitude.value]) (by decide))⟩

/-- A small number, one whose shortest decimal is another number, and a large one look different. -/
theorem not_alike_shown :
    (Binary.ofFloat 0.00001 = .finite false ⟨5902958103587057, -69, false⟩ ∧
      (PageValue.float 0.00001).shown plain = "1e-05".toList ∧
      IsScriptText false ⟨5902958103587057, -69, false⟩ "0.00001".toList) ∧
    (Binary.ofFloat 1152921504606846976 = .finite false ⟨4503599627370496, 8, true⟩ ∧
      (PageValue.float 1152921504606846976).shown plain = "1152921504606846976".toList ∧
      IsScriptText false ⟨4503599627370496, 8, true⟩ "1152921504606847000".toList) ∧
    (Binary.ofFloat 1e21 = .finite false ⟨7629394531250000, 17, false⟩ ∧
      (PageValue.float 1e21).shown plain = "1000000000000000000000".toList ∧
      IsScriptText false ⟨7629394531250000, 17, false⟩ "1e+21".toList) := by
  have hsmall : Binary.ofFloat 0.00001 = .finite false ⟨5902958103587057, -69, false⟩ := by
    decide +kernel
  have hrounded : Binary.ofFloat 1152921504606846976 =
      .finite false ⟨4503599627370496, 8, true⟩ := by decide +kernel
  have hlarge : Binary.ofFloat 1e21 = .finite false ⟨7629394531250000, 17, false⟩ := by
    decide +kernel
  refine ⟨⟨hsmall, ?_, (isScriptText_iff hsmall).2 ?_⟩,
    ⟨hrounded, ?_, (isScriptText_iff hrounded).2 ?_⟩,
    ⟨hlarge, ?_, (isScriptText_iff hlarge).2 ?_⟩⟩ <;> decide +kernel

end PageValue
end PageLoom
