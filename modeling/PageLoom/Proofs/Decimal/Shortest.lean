import Mathlib.Algebra.Order.Floor.Semifield
import Mathlib.Data.Rat.Floor
import Mathlib.Data.Nat.Log
import Mathlib.Data.Nat.Prime.Basic
import Mathlib.Tactic.NormNum.Prime
import PageLoom.Proofs.Decimal.Nearest

set_option autoImplicit false

/-! # The printer finds the shortest decimal

Among the decimals that are read as a number, the shortest have the fewest digits; of these the one
nearest to the number is chosen, of two equally near the one with an even last digit
(`IsShortest`). There is just one (`IsShortest.unique`), and the printer finds it
(`isShortest_shortest`): it looks at ever finer grids, of one more digit each, and seventeen digits
are always enough. -/

namespace PageLoom
namespace Decimal

variable {x : Magnitude} {d d' : Scaled} {e k : ℤ} {q : ℚ}

/-! ## Digits of a decimal -/

/-- The number of digits. -/
def Scaled.size (d : Scaled) : ℕ := Nat.log 10 d.digits + 1

/-- Where the first digit stands. -/
def Scaled.lead (d : Scaled) : ℤ := d.exponent + d.size - 1

theorem ten_zpow_pos (e : ℤ) : (0 : ℚ) < 10 ^ e := zpow_pos (by norm_num) e

theorem ten_zpow_lt_iff {a b : ℤ} : (10 : ℚ) ^ a < 10 ^ b ↔ a < b :=
  zpow_lt_zpow_iff_right₀ (by norm_num)

theorem ten_zpow_le_iff {a b : ℤ} : (10 : ℚ) ^ a ≤ 10 ^ b ↔ a ≤ b :=
  zpow_le_zpow_iff_right₀ (by norm_num)

theorem ten_zpow_add_natCast (e : ℤ) (n : ℕ) : (10 : ℚ) ^ (e + n) = (10 ^ n : ℕ) * 10 ^ e := by
  rw [zpow_add₀ (by norm_num), zpow_natCast, mul_comm]
  push_cast
  ring

theorem size_eq_iff (hpos : 0 < d.digits) {n : ℕ} :
    d.size = n + 1 ↔ 10 ^ n ≤ d.digits ∧ d.digits < 10 ^ (n + 1) := by
  rw [Scaled.size, Nat.add_right_cancel_iff, Nat.log_eq_iff (.inr ⟨by decide, hpos.ne'⟩)]

theorem digits_lt (d : Scaled) : d.digits < 10 ^ d.size :=
  Nat.lt_pow_succ_log_self (by decide) _

theorem le_digits (hpos : 0 < d.digits) : 10 ^ (d.size - 1) ≤ d.digits :=
  Nat.pow_log_le_self 10 hpos.ne'

theorem size_pos (d : Scaled) : 0 < d.size := Nat.succ_pos _

/-- A decimal is below the power of ten behind its first digit. -/
theorem value_lt (d : Scaled) : d.value < 10 ^ (d.lead + 1) := by
  have hlead : d.lead + 1 = d.exponent + (d.size : ℕ) := by
    unfold Scaled.lead
    omega
  rw [hlead, ten_zpow_add_natCast, Scaled.value]
  exact mul_lt_mul_of_pos_right (Nat.cast_lt.2 (digits_lt d)) (ten_zpow_pos _)

theorem le_value (hpos : 0 < d.digits) : 10 ^ d.lead ≤ d.value := by
  have hlead : d.lead = d.exponent + (d.size - 1 : ℕ) := by
    have := size_pos d
    unfold Scaled.lead
    omega
  rw [hlead, ten_zpow_add_natCast, Scaled.value]
  exact mul_le_mul_of_nonneg_right (Nat.cast_le.2 (le_digits hpos)) (ten_zpow_pos _).le

theorem value_pos_iff : 0 < d.value ↔ 0 < d.digits := by
  rw [Scaled.value, mul_pos_iff_of_pos_right (ten_zpow_pos _), Nat.cast_pos]

/-! ## The shortest decimal -/

/-- The decimal with the fewest digits that is read as a number, the nearest one of those, and of
    two equally near the one with an even last digit. -/
structure IsShortest (x : Magnitude) (d : Scaled) : Prop where
  reads : IsNearest d.value x
  least : ∀ d' : Scaled, IsNearest d'.value x → d.size ≤ d'.size
  closest : ∀ d' : Scaled, IsNearest d'.value x → d'.size = d.size → d'.value ≠ d.value →
    |x.value - d.value| < |x.value - d'.value| ∨
      |x.value - d.value| = |x.value - d'.value| ∧ d.digits % 2 = 0

theorem eq_of_value_eq (hpos : 0 < d.digits) (hsize : d.size = d'.size)
    (hvalue : d.value = d'.value) : d = d' := by
  have hpos' : 0 < d'.digits := value_pos_iff.1 (hvalue ▸ value_pos_iff.2 hpos)
  have hlead : d.lead = d'.lead := by
    have h₁ := (le_value hpos).trans_lt (hvalue ▸ value_lt d')
    have h₂ := (le_value hpos').trans_lt (hvalue ▸ value_lt d)
    rw [ten_zpow_lt_iff] at h₁ h₂
    omega
  have hexponent : d.exponent = d'.exponent := by
    unfold Scaled.lead at hlead
    omega
  obtain ⟨digits, e⟩ := d
  obtain ⟨digits', e'⟩ := d'
  obtain rfl : e = e' := hexponent
  obtain rfl : digits = digits' := Nat.cast_injective
    (mul_right_cancel₀ (ten_zpow_pos e).ne' hvalue : (digits : ℚ) = digits')
  rfl

namespace IsShortest

variable (hx : x.Canonical) (hpos : 0 < x.mantissa)

include hx hpos

theorem covers (h : IsShortest x d) : x.Covers d.value := h.reads.covers hx hpos

theorem digits_pos (h : IsShortest x d) : 0 < d.digits :=
  value_pos_iff.1 ((h.covers hx hpos).pos hpos)

/-- Between two decimals that are equally near there is none with as few digits that is read as
    the number. -/
theorem not_between (h : IsShortest x d) (h' : IsShortest x d') {m : Scaled}
    (hequal : 2 * x.value = d.value + d'.value) (hlow : d.value < m.value)
    (hhigh : m.value < d'.value) (hsize : m.size = d.size) : False := by
  have hcovers := (h.covers hx hpos).between (h'.covers hx hpos) hlow.le hhigh.le
  have hfar := h.closest m (.of_covers hx hcovers) hsize hlow.ne'
  rw [abs_sub_lt_abs_sub_iff_of_lt hlow, abs_sub_eq_abs_sub_iff hlow.ne] at hfar
  rcases hfar with hfar | ⟨hfar, -⟩ <;> linarith

section Tie

variable (h : IsShortest x d) (h' : IsShortest x d') (hsize : d.size = d'.size)
  (hequal : 2 * x.value = d.value + d'.value)

include h h' hsize hequal

/-- Between decimals that are equally near stands no power of ten: it has one digit, so both have
    one, and the upper one is the power itself, which is odd. -/
theorem exponent_not_lt (heven : d'.digits % 2 = 0) : ¬ d.exponent < d'.exponent := by
  intro hexponent
  have hlead : d.lead + 1 ≤ d'.lead := by
    unfold Scaled.lead
    omega
  have hpower : (⟨1, d.lead + 1⟩ : Scaled).value = 10 ^ (d.lead + 1) := by
    simp [Scaled.value]
  have hle : (10 : ℚ) ^ (d.lead + 1) ≤ d'.value :=
    (ten_zpow_le_iff.2 hlead).trans (le_value (h'.digits_pos hx hpos))
  have hcovers := (h.covers hx hpos).between (h'.covers hx hpos) (value_lt d).le hle
  have hone : d.size = 1 := le_antisymm
    (h.least ⟨1, d.lead + 1⟩ (by rw [hpower]; exact .of_covers hx hcovers)) (size_pos d)
  rcases hle.eq_or_lt with heq | hlt
  · have hsame : (⟨1, d.lead + 1⟩ : Scaled) = d' :=
      eq_of_value_eq one_pos (by rw [← hsize, hone]; rfl) (by rw [hpower, heq])
    rw [← hsame] at heven
    cases heven
  · exact h.not_between hx hpos h' hequal (by rw [hpower]; exact value_lt d)
      (by rw [hpower]; exact hlt) (by rw [hone]; rfl)

/-- Decimals that are equally near and even do not stand on one grid: the one in the middle has as
    many digits. -/
theorem exponent_ne (heven : d.digits % 2 = 0) (heven' : d'.digits % 2 = 0)
    (hlt : d.value < d'.value) : d.exponent ≠ d'.exponent := by
  intro hexponent
  have hcount : d.digits < d'.digits := by
    rw [Scaled.value, Scaled.value, hexponent, mul_lt_mul_iff_of_pos_right (ten_zpow_pos _),
      Nat.cast_lt] at hlt
    exact hlt
  have hmiddle : (⟨d.digits + 1, d.exponent⟩ : Scaled).size = d.size := by
    have hsmall : d.digits + 1 ≤ d'.digits := hcount
    obtain ⟨n, hn⟩ : ∃ n, d.size = n + 1 := ⟨_, rfl⟩
    obtain ⟨hlow, -⟩ := (size_eq_iff (h.digits_pos hx hpos)).1 hn
    obtain ⟨-, hhigh⟩ := (size_eq_iff (h'.digits_pos hx hpos)).1 (hsize ▸ hn)
    rw [hn]
    exact (size_eq_iff (Nat.succ_pos _)).2 ⟨Nat.le_succ_of_le hlow, hsmall.trans_lt hhigh⟩
  have hless : d.digits + 1 < d'.digits := by omega
  refine h.not_between hx hpos h' hequal (m := ⟨d.digits + 1, d.exponent⟩) ?_ ?_ hmiddle
  · exact mul_lt_mul_of_pos_right (Nat.cast_lt.2 (Nat.lt_succ_self _)) (ten_zpow_pos _)
  · rw [Scaled.value, Scaled.value, ← hexponent]
    exact mul_lt_mul_of_pos_right (Nat.cast_lt.2 hless) (ten_zpow_pos _)

end Tie

/-- Two decimals that are equally near, one below and one above the number, are not both the
    shortest. -/
theorem value_le (h : IsShortest x d) (h' : IsShortest x d') : d'.value ≤ d.value := by
  by_contra hgreater
  have hlt : d.value < d'.value := not_le.1 hgreater
  have hsize : d.size = d'.size := le_antisymm (h.least d' h'.reads) (h'.least d h.reads)
  -- Both are equally near, and both have an even last digit.
  have hfar := h.closest d' h'.reads hsize.symm hlt.ne'
  have hfar' := h'.closest d h.reads hsize hlt.ne
  rw [abs_sub_lt_abs_sub_iff_of_lt hlt, abs_sub_eq_abs_sub_iff hlt.ne] at hfar
  rw [abs_sub_lt_abs_sub_iff_of_gt hlt, abs_sub_eq_abs_sub_iff hlt.ne'] at hfar'
  obtain ⟨hequal, heven⟩ : 2 * x.value = d.value + d'.value ∧ d.digits % 2 = 0 := by
    rcases hfar with hfar | hfar
    · rcases hfar' with hfar' | ⟨hfar', -⟩ <;> linarith
    · exact hfar
  have heven' : d'.digits % 2 = 0 := by
    rcases hfar' with hfar' | ⟨-, hfar'⟩
    · linarith
    · exact hfar'
  rcases lt_trichotomy d.exponent d'.exponent with hexponent | hexponent | hexponent
  · exact h.exponent_not_lt hx hpos h' hsize hequal heven' hexponent
  · exact h.exponent_ne hx hpos h' hsize hequal heven heven' hlt hexponent
  · -- With as many digits, the decimal with the higher exponent is above.
    have hlead : d'.lead + 1 ≤ d.lead := by
      unfold Scaled.lead
      omega
    have habove := ((value_lt d').le.trans (ten_zpow_le_iff.2 hlead)).trans
      (le_value (h.digits_pos hx hpos))
    exact absurd hlt (not_lt.2 habove)

/-- A number has just one shortest decimal. -/
theorem unique (h : IsShortest x d) (h' : IsShortest x d') : d = d' := by
  have hsize : d.size = d'.size := le_antisymm (h.least d' h'.reads) (h'.least d h.reads)
  refine eq_of_value_eq (h.digits_pos hx hpos) hsize ?_
  exact le_antisymm (h'.value_le hx hpos h) (h.value_le hx hpos h')

end IsShortest

/-! ## The number of digits before the point -/

/-- Powers of two and ten that stand in order with a common exponent do so with any. -/
theorem ten_zpow_le_two_zpow_of {n p r : ℕ} (hn : n ≠ 0) (hlow : 10 ^ p ≤ 2 ^ n)
    (hhigh : 2 ^ n ≤ 10 ^ r) {a b : ℤ} (h : n * a ≤ p * b) (h' : n * a ≤ r * b) :
    (10 : ℚ) ^ a ≤ 2 ^ b := by
  have hlow' : (10 : ℚ) ^ p ≤ 2 ^ n := by exact_mod_cast hlow
  have hhigh' : (2 : ℚ) ^ n ≤ 10 ^ r := by exact_mod_cast hhigh
  rw [← pow_le_pow_iff_left₀ (ten_zpow_pos a).le (zpow_pos two_pos b).le hn, ← zpow_natCast,
    ← zpow_natCast, ← zpow_mul, ← zpow_mul, mul_comm a, mul_comm b]
  rcases le_total 0 b with hb | hb
  · obtain ⟨m, rfl⟩ := Int.eq_ofNat_of_zero_le hb
    calc (10 : ℚ) ^ (n * a) ≤ 10 ^ ((p : ℤ) * m) := ten_zpow_le_iff.2 h
      _ = (10 ^ p) ^ m := by rw [zpow_mul, zpow_natCast, zpow_natCast]
      _ ≤ (2 ^ n) ^ m := pow_le_pow_left₀ (by positivity) hlow' m
      _ = 2 ^ ((n : ℤ) * m) := by rw [zpow_mul, zpow_natCast, zpow_natCast]
  · obtain ⟨m, hm⟩ := Int.eq_ofNat_of_zero_le (neg_nonneg.2 hb)
    obtain rfl : b = -m := by omega
    calc (10 : ℚ) ^ (n * a) ≤ 10 ^ ((r : ℤ) * -m) := ten_zpow_le_iff.2 h'
      _ = ((10 ^ r) ^ m)⁻¹ := by rw [mul_neg, zpow_neg, zpow_mul, zpow_natCast, zpow_natCast]
      _ ≤ ((2 ^ n) ^ m)⁻¹ := inv_anti₀ (by positivity) (pow_le_pow_left₀ (by positivity) hhigh' m)
      _ = 2 ^ ((n : ℤ) * -m) := by rw [mul_neg, zpow_neg, zpow_mul, zpow_natCast, zpow_natCast]

theorem two_zpow_le_ten_zpow_of {n p r : ℕ} (hn : n ≠ 0) (hlow : 10 ^ p ≤ 2 ^ n)
    (hhigh : 2 ^ n ≤ 10 ^ r) {a b : ℤ} (h : p * b ≤ n * a) (h' : r * b ≤ n * a) :
    (2 : ℚ) ^ b ≤ 10 ^ a := by
  have hflip := ten_zpow_le_two_zpow_of hn hlow hhigh (a := -a) (b := -b)
    (by linarith) (by linarith)
  rw [zpow_neg, zpow_neg] at hflip
  exact (inv_le_inv₀ (ten_zpow_pos a) (zpow_pos two_pos b)).1 hflip

/-- The decimal logarithm of two is between `0.30102` and `0.30103`. -/
theorem ten_pow_le_two_pow : 10 ^ 30102 ≤ 2 ^ 100000 := by decide +kernel

theorem two_pow_le_ten_pow : 2 ^ 100000 ≤ 10 ^ 30103 := by decide +kernel

/-- The digits before the point are as many as the exponent of the next power of ten. -/
def HasScale (x : Magnitude) (k : ℤ) : Prop := 10 ^ (k - 1) ≤ x.value ∧ x.value < 10 ^ k

theorem hasScale_scaleFrom {fuel : ℕ} (hlow : 10 ^ (k - 1) ≤ x.value)
    (hhigh : x.value < 10 ^ (k + fuel)) : HasScale x (x.scaleFrom fuel k) := by
  induction fuel generalizing k with
  | zero =>
      rw [Nat.cast_zero, add_zero] at hhigh
      exact ⟨hlow, hhigh⟩
  | succ fuel ih =>
      have hcompare : compareScaled 1 k x.fraction.1 x.fraction.2 = compare (10 ^ k) x.value := by
        rw [compareScaled_eq _ _ _ (fraction_pos x), value_eq_fraction]
        simp
      rw [Magnitude.scaleFrom]
      simp only [hcompare, beq_iff_eq, compare_gt_iff_gt]
      split
      next habove => exact ⟨hlow, habove⟩
      next hbelow =>
        refine ih (by rw [add_sub_cancel_right]; exact not_lt.1 hbelow) ?_
        rwa [add_assoc, add_comm 1, ← Nat.cast_succ]

/-- Where the first binary digit stands. -/
def Magnitude.log2 (x : Magnitude) : ℤ := x.mantissa.log2 + x.exponent

theorem two_zpow_log2_le (hpos : 0 < x.mantissa) : 2 ^ x.log2 ≤ x.value := by
  rw [Magnitude.log2, zpow_add₀ two_ne_zero, zpow_natCast]
  have hself : ((2 ^ x.mantissa.log2 : ℕ) : ℚ) ≤ x.mantissa :=
    Nat.cast_le.2 (Nat.log2_self_le hpos.ne')
  push_cast at hself
  exact mul_le_mul_of_nonneg_right hself (gap_pos x).le

theorem lt_two_zpow_log2 (x : Magnitude) : x.value < 2 ^ (x.log2 + 1) := by
  rw [Magnitude.log2, add_right_comm, zpow_add₀ two_ne_zero, ← Nat.cast_succ, zpow_natCast]
  have hself : (x.mantissa : ℚ) < (2 ^ (x.mantissa.log2 + 1) : ℕ) :=
    Nat.cast_lt.2 Nat.lt_log2_self
  push_cast at hself
  exact mul_lt_mul_of_pos_right hself (gap_pos x)

theorem hasScale_scale (hx : x.Canonical) (hlarge : x.exponent ≤ 971) (hpos : 0 < x.mantissa) :
    HasScale x x.scale := by
  have hbits : x.mantissa.log2 < 53 := (Nat.log2_lt hpos.ne').2 hx.small
  have hleast := hx.least
  have hlow := two_zpow_log2_le hpos
  have hhigh := lt_two_zpow_log2 x
  have hscale : x.scale = x.scaleFrom 6
      (if 0 ≤ x.log2 then x.log2 * 30102 / 100000 else x.log2 * 30104 / 100000) := rfl
  have hrange : -1074 ≤ x.log2 ∧ x.log2 ≤ 1023 := by
    unfold Magnitude.log2
    omega
  rw [hscale]
  generalize x.log2 = l at *
  generalize hestimate : (if 0 ≤ l then l * 30102 / 100000 else l * 30104 / 100000) = estimate
  have hbounds : 100000 * estimate ≤ 30102 * l ∧ 100000 * estimate ≤ 30103 * l ∧
      30102 * (l + 1) ≤ 100000 * (estimate + 6) ∧ 30103 * (l + 1) ≤ 100000 * (estimate + 6) := by
    rw [← hestimate]
    split <;> omega
  obtain ⟨h₁, h₂, h₃, h₄⟩ := hbounds
  have hbelow : (10 : ℚ) ^ estimate ≤ 2 ^ l :=
    ten_zpow_le_two_zpow_of (by decide) ten_pow_le_two_pow two_pow_le_ten_pow h₁ h₂
  have habove : (2 : ℚ) ^ (l + 1) ≤ 10 ^ (estimate + 6) :=
    two_zpow_le_ten_zpow_of (by decide) ten_pow_le_two_pow two_pow_le_ten_pow h₃ h₄
  refine hasScale_scaleFrom ?_ (hhigh.trans_le habove)
  exact ((ten_zpow_le_iff.2 (by omega)).trans hbelow).trans hlow

/-! ## Grids -/

/-- The last decimal of a grid that is not above the number. -/
def Magnitude.lower (x : Magnitude) (e : ℤ) : ℕ :=
  x.fraction.1 * Nat.pow 10 (-e).toNat / (x.fraction.2 * Nat.pow 10 e.toNat)

theorem lower_eq_floor (x : Magnitude) (e : ℤ) : x.lower e = ⌊x.value / 10 ^ e⌋₊ := by
  rw [Magnitude.lower, ← Nat.floor_div_eq_div (K := ℚ)]
  congr 1
  rw [value_eq_fraction, zpow_eq_div 10 e]
  have hden : (x.fraction.2 : ℚ) ≠ 0 := Nat.cast_ne_zero.2 (fraction_pos x).ne'
  push_cast [Nat.pow_eq]
  field_simp

theorem lower_le (x : Magnitude) (e : ℤ) : x.lower e * 10 ^ e ≤ x.value := by
  rw [lower_eq_floor, ← le_div_iff₀ (ten_zpow_pos e)]
  refine Nat.floor_le (div_nonneg ?_ (ten_zpow_pos e).le)
  rw [value_eq_fraction]
  positivity

theorem lt_lower_add_one (x : Magnitude) (e : ℤ) : x.value < (x.lower e + 1 : ℕ) * 10 ^ e := by
  rw [lower_eq_floor, ← div_lt_iff₀ (ten_zpow_pos e), Nat.cast_succ]
  exact Nat.lt_floor_add_one _

/-- The decimal of a grid that is read as the number and is the nearest one. -/
structure BestOnGrid (x : Magnitude) (e : ℤ) (d : Scaled) : Prop where
  exponent : d.exponent = e
  covers : x.Covers d.value
  near : d.digits = x.lower e ∨ d.digits = x.lower e + 1
  closest : ∀ a : ℕ, x.Covers (a * 10 ^ e) → a ≠ d.digits →
    |x.value - d.value| < |x.value - a * 10 ^ e| ∨
      |x.value - d.value| = |x.value - a * 10 ^ e| ∧ d.digits % 2 = 0

section Grid

variable {a : ℕ}

/-- Decimals of a grid stand apart. -/
theorem grid_lt {m n : ℕ} (h : m < n) : (m * 10 ^ e : ℚ) < n * 10 ^ e :=
  mul_lt_mul_of_pos_right (Nat.cast_lt.2 h) (ten_zpow_pos e)

/-- The neighbour below is the best one, if the one above is not read as the number or is not as
    near. -/
theorem bestOnGrid_low (hlow : x.Covers (⟨x.lower e, e⟩ : Scaled).value)
    (habove : ¬ x.Covers (⟨x.lower e + 1, e⟩ : Scaled).value ∨
      2 * x.value < (2 * x.lower e + 1 : ℕ) * 10 ^ e ∨
        2 * x.value = (2 * x.lower e + 1 : ℕ) * 10 ^ e ∧ x.lower e % 2 = 0) :
    BestOnGrid x e ⟨x.lower e, e⟩ := by
  refine ⟨rfl, hlow, .inl rfl, fun a ha hne => ?_⟩
  have hle := lower_le x e
  have hlt := lt_lower_add_one x e
  have hmiddle : ((2 * x.lower e + 1 : ℕ) : ℚ) * 10 ^ e =
      x.lower e * 10 ^ e + (x.lower e + 1 : ℕ) * 10 ^ e := by
    push_cast
    ring
  simp only [Scaled.value] at hlow habove ⊢
  rw [hmiddle] at habove
  rcases lt_or_gt_of_ne hne with hless | hmore
  · left
    have hfar := grid_lt (e := e) hless
    rw [abs_sub_lt_abs_sub_iff_of_gt hfar]
    linarith
  · have hfar := grid_lt (e := e) hmore
    rw [abs_sub_lt_abs_sub_iff_of_lt hfar, abs_sub_eq_abs_sub_iff hfar.ne]
    rcases (Nat.succ_le_of_lt hmore).eq_or_lt with heq | hbeyond
    · obtain rfl : a = x.lower e + 1 := heq.symm
      rcases habove with hnot | hnear | ⟨htie, heven⟩
      · exact absurd ha hnot
      · exact .inl hnear
      · exact .inr ⟨htie, heven⟩
    · have hbeyond : ((x.lower e + 1 : ℕ) * 10 ^ e : ℚ) < a * 10 ^ e := grid_lt hbeyond
      left
      rcases habove with hnot | hnear | ⟨htie, -⟩
      · exact absurd ((covers_value x).between ha hlt.le hbeyond.le) hnot
      · linarith
      · linarith

/-- The neighbour above is the best one, if the one below is not read as the number or is not as
    near. -/
theorem bestOnGrid_high (hhigh : x.Covers (⟨x.lower e + 1, e⟩ : Scaled).value)
    (hbelow : ¬ x.Covers (⟨x.lower e, e⟩ : Scaled).value ∨
      (2 * x.lower e + 1 : ℕ) * 10 ^ e < 2 * x.value ∨
        2 * x.value = (2 * x.lower e + 1 : ℕ) * 10 ^ e ∧ (x.lower e + 1) % 2 = 0) :
    BestOnGrid x e ⟨x.lower e + 1, e⟩ := by
  refine ⟨rfl, hhigh, .inr rfl, fun a ha hne => ?_⟩
  have hle := lower_le x e
  have hlt := lt_lower_add_one x e
  have hmiddle : ((2 * x.lower e + 1 : ℕ) : ℚ) * 10 ^ e =
      x.lower e * 10 ^ e + (x.lower e + 1 : ℕ) * 10 ^ e := by
    push_cast
    ring
  simp only [Scaled.value] at hhigh hbelow ⊢
  rw [hmiddle] at hbelow
  rcases lt_or_gt_of_ne hne with hless | hmore
  · have hfar := grid_lt (e := e) hless
    rw [abs_sub_lt_abs_sub_iff_of_gt hfar, abs_sub_eq_abs_sub_iff hfar.ne']
    rcases (Nat.le_of_lt_succ hless).eq_or_lt with rfl | hbeyond
    · rcases hbelow with hnot | hnear | ⟨htie, heven⟩
      · exact absurd ha hnot
      · exact .inl (by linarith)
      · exact .inr ⟨by linarith, heven⟩
    · have hbeyond : (a * 10 ^ e : ℚ) < x.lower e * 10 ^ e := grid_lt hbeyond
      left
      rcases hbelow with hnot | hnear | ⟨htie, -⟩
      · exact absurd (ha.between (covers_value x) hbeyond.le hle) hnot
      · linarith
      · linarith
  · left
    have hfar := grid_lt (e := e) hmore
    rw [abs_sub_lt_abs_sub_iff_of_lt hfar]
    linarith

theorem onGrid?_eq (x : Magnitude) (e : ℤ) :
    x.onGrid? e = match x.readsBack ⟨x.lower e, e⟩, x.readsBack ⟨x.lower e + 1, e⟩ with
      | false, false => none
      | true, false => some ⟨x.lower e, e⟩
      | false, true => some ⟨x.lower e + 1, e⟩
      | true, true =>
          match compareScaled (2 * x.lower e + 1) e (2 * x.fraction.1) x.fraction.2 with
          | .gt => some ⟨x.lower e, e⟩
          | .lt => some ⟨x.lower e + 1, e⟩
          | .eq => if x.lower e % 2 = 0 then some ⟨x.lower e, e⟩
              else some ⟨x.lower e + 1, e⟩ := rfl

/-- When neither neighbour is read as the number, no decimal of the grid is. -/
theorem not_covers_of_onGrid? (hpos : 0 < x.mantissa) (h : x.onGrid? e = none) (a : ℕ) :
    ¬ x.Covers (a * 10 ^ e) := by
  rw [onGrid?_eq] at h
  split at h
  next hlow hhigh =>
    rw [← Bool.not_eq_true, readsBack_iff hpos] at hlow hhigh
    intro ha
    rcases Nat.lt_or_ge (x.lower e) a with hmore | hless
    · refine hhigh ((covers_value x).between ha (lt_lower_add_one x e).le ?_)
      exact mul_le_mul_of_nonneg_right (Nat.cast_le.2 hmore) (ten_zpow_pos e).le
    · refine hlow (ha.between (covers_value x) ?_ (lower_le x e))
      exact mul_le_mul_of_nonneg_right (Nat.cast_le.2 hless) (ten_zpow_pos e).le
  next => cases h
  next => cases h
  next =>
    split at h
    next => cases h
    next => cases h
    next => split at h <;> cases h

theorem bestOnGrid_of_onGrid? (hpos : 0 < x.mantissa) (h : x.onGrid? e = some d) :
    BestOnGrid x e d := by
  have hcompare : compareScaled (2 * x.lower e + 1) e (2 * x.fraction.1) x.fraction.2 =
      compare ((2 * x.lower e + 1 : ℕ) * 10 ^ e : ℚ) (2 * x.value) := by
    rw [compareScaled_eq _ _ _ (fraction_pos x), value_eq_fraction]
    push_cast
    rw [mul_div_assoc]
  rw [onGrid?_eq, hcompare] at h
  split at h
  next => cases h
  next hlow hhigh =>
    rw [← Bool.not_eq_true, readsBack_iff hpos] at hhigh
    obtain rfl := Option.some.inj h
    exact bestOnGrid_low ((readsBack_iff hpos).1 hlow) (.inl hhigh)
  next hlow hhigh =>
    rw [← Bool.not_eq_true, readsBack_iff hpos] at hlow
    obtain rfl := Option.some.inj h
    exact bestOnGrid_high ((readsBack_iff hpos).1 hhigh) (.inl hlow)
  next hlow hhigh =>
    rw [readsBack_iff hpos] at hlow hhigh
    split at h
    next hgt =>
      obtain rfl := Option.some.inj h
      exact bestOnGrid_low hlow (.inr (.inl (compare_gt_iff_gt.1 hgt)))
    next hlt =>
      obtain rfl := Option.some.inj h
      exact bestOnGrid_high hhigh (.inr (.inl (compare_lt_iff_lt.1 hlt)))
    next heq =>
      have htie := (compare_eq_iff_eq.1 heq).symm
      split at h
      next heven =>
        obtain rfl := Option.some.inj h
        exact bestOnGrid_low hlow (.inr (.inr ⟨htie, heven⟩))
      next hodd =>
        obtain rfl := Option.some.inj h
        exact bestOnGrid_high hhigh (.inr (.inr ⟨htie, by omega⟩))

end Grid

/-! ## Enough digits -/

/-- A grid with as many digits as a decimal that is read as the number, or a coarser one, has such a
    decimal. -/
theorem exists_hit (hscale : HasScale x k) (h : x.Covers d.value) :
    ∃ n < d.size, ∃ a : ℕ, x.Covers (a * 10 ^ (k - (n + 1 : ℕ))) := by
  have hsize := size_pos d
  rcases lt_or_ge d.exponent (k - d.size) with hfine | hcoarse
  · -- The decimal is below the power of ten that the number begins with.
    have hlead : d.lead + 1 ≤ k - 1 := by
      unfold Scaled.lead
      omega
    have hbelow := (value_lt d).le.trans (ten_zpow_le_iff.2 hlead)
    refine ⟨0, hsize, 1, ?_⟩
    simpa using h.between (covers_value x) hbelow hscale.1
  · refine ⟨d.size - 1, by omega, d.digits * 10 ^ (d.exponent - (k - d.size)).toNat, ?_⟩
    have hexponent : d.exponent =
        k - (d.size - 1 + 1 : ℕ) + ((d.exponent - (k - d.size)).toNat : ℕ) := by omega
    rw [Scaled.value, hexponent, ten_zpow_add_natCast, ← mul_assoc, ← Nat.cast_mul] at h
    exact h

/-- Seventeen digits are enough for every number. -/
theorem exists_hit_seventeen (hx : x.Canonical) (hscale : HasScale x k) :
    ∃ a : ℕ, x.Covers (a * 10 ^ (k - 17)) := by
  have hgap := gap_pos x
  have hlow := lower_le x (k - 17)
  have hhigh := lt_lower_add_one x (k - 17)
  have hdigits : (10 ^ 16 : ℕ) * (10 : ℚ) ^ (k - 17) ≤ x.value := by
    rw [← ten_zpow_add_natCast]
    have hpower : k - 17 + (16 : ℕ) = k - 1 := by omega
    rw [hpower]
    exact hscale.1
  have hmantissa : (x.mantissa : ℚ) ≤ (2 ^ 53 : ℕ) := Nat.cast_le.2 hx.small.le
  have hvalue := value_eq_gap x
  push_cast at hhigh hdigits hmantissa
  by_cases hnarrow : x.narrowBelow = true
  · -- The gap below is half as wide, so the decimal above is taken.
    obtain ⟨hleast, -⟩ := hx.narrow.1 hnarrow
    rw [hleast] at hvalue
    push_cast at hvalue
    have hbelow := gapBelow_pos x
    refine ⟨x.lower (k - 17) + 1, .inl ?_, .inl ?_⟩ <;> push_cast <;> linarith
  · have hbelow : x.gapBelow = x.gap := if_neg hnarrow
    have hvalue' : x.value ≤ 2 ^ 53 * x.gap := hvalue ▸ mul_le_mul_of_nonneg_right hmantissa hgap.le
    rcases le_total (2 * x.value) (2 * (x.lower (k - 17) * 10 ^ (k - 17)) + 10 ^ (k - 17)) with
      hnear | hnear
    · refine ⟨x.lower (k - 17), .inl ?_, .inl ?_⟩ <;> linarith
    · refine ⟨x.lower (k - 17) + 1, .inl ?_, .inl ?_⟩ <;> push_cast <;> linarith

/-- The first grid with a decimal that is read as the number. -/
structure FirstHit (x : Magnitude) (k : ℤ) (n : ℕ) (d : Scaled) : Prop where
  best : BestOnGrid x (k - (n + 1 : ℕ)) d
  first : ∀ i < n, ∀ a : ℕ, ¬ x.Covers (a * 10 ^ (k - (i + 1 : ℕ)))

theorem exists_firstHit (hx : x.Canonical) (hpos : 0 < x.mantissa) (hscale : HasScale x x.scale) :
    ∃ n d, FirstHit x x.scale n d ∧ x.shortest = d.strip := by
  have hshortest : x.shortest = (((List.range 17).findSome? fun n =>
      x.onGrid? (x.scale - (n + 1 : ℕ))).getD x.exact).strip := rfl
  rw [hshortest]
  cases hfound : (List.range 17).findSome? fun n => x.onGrid? (x.scale - (n + 1 : ℕ)) with
  | none =>
      obtain ⟨a, ha⟩ := exists_hit_seventeen hx hscale
      rw [List.findSome?_eq_none_iff] at hfound
      exact absurd ha (not_covers_of_onGrid? hpos (hfound 16 (by simp)) a)
  | some d =>
      obtain ⟨before, n, after, hrange, hn, hbefore⟩ := List.findSome?_eq_some_iff.1 hfound
      refine ⟨n, d, ⟨bestOnGrid_of_onGrid? hpos hn, fun i hi a => ?_⟩, rfl⟩
      have hlength : n = before.length := by
        have hat : (List.range 17)[before.length]? = some n := by simp [hrange]
        rw [List.getElem?_range (by
          rw [← List.length_range (n := 17), hrange]
          simp)] at hat
        exact (Option.some.inj hat).symm
      have hmem : i ∈ before := by
        have hat : (List.range 17)[i]? = some i := List.getElem?_range (by
          have htotal := congrArg List.length hrange
          simp only [List.length_range, List.length_append, List.length_cons] at htotal
          omega)
        rw [hrange, List.getElem?_append_left (hlength ▸ hi)] at hat
        exact List.mem_of_getElem? hat
      exact not_covers_of_onGrid? hpos (hbefore i hmem) a

/-! ## The first hit is the shortest -/

theorem strip.go_eq_self {fuel : ℕ} (h : d.digits % 10 ≠ 0) :
    Scaled.strip.go fuel d = d := by
  cases fuel with
  | zero => rfl
  | succ fuel => rw [Scaled.strip.go, if_neg fun hzero => h hzero.1]

theorem strip_eq_self (h : d.digits % 10 ≠ 0) : d.strip = d := strip.go_eq_self h

theorem strip_ten (e : ℤ) : (⟨10, e⟩ : Scaled).strip = ⟨1, e + 1⟩ := by
  rw [Scaled.strip, Scaled.strip.go, if_pos ⟨by norm_num, by norm_num⟩]
  exact strip.go_eq_self (d := ⟨10 / 10, e + 1⟩) (by norm_num)

/-- A power of ten above a grid stands on it. -/
theorem ten_zpow_on_grid (k : ℤ) (n : ℕ) :
    (10 : ℚ) ^ (k - 1) = (10 ^ n : ℕ) * 10 ^ (k - (n + 1 : ℕ)) := by
  rw [← ten_zpow_add_natCast]
  congr 1
  omega

theorem value_of_ten (k : ℤ) : (⟨1, k - 1 + 1⟩ : Scaled).value = (⟨10, k - 1⟩ : Scaled).value := by
  simp only [Scaled.value, zpow_add₀ (by norm_num : (10 : ℚ) ≠ 0)]
  push_cast
  ring

namespace FirstHit

variable {n : ℕ}

theorem lower_bounds (hscale : HasScale x k) (n : ℕ) :
    10 ^ n ≤ x.lower (k - (n + 1 : ℕ)) ∧ x.lower (k - (n + 1 : ℕ)) < 10 ^ (n + 1) := by
  have hlow := hscale.1.trans_lt (lt_lower_add_one x (k - (n + 1 : ℕ)))
  have hhigh := (lower_le x (k - (n + 1 : ℕ))).trans_lt hscale.2
  have hpower : (10 : ℚ) ^ k = (10 ^ (n + 1) : ℕ) * 10 ^ (k - (n + 1 : ℕ)) := by
    rw [← ten_zpow_add_natCast, sub_add_cancel]
  rw [ten_zpow_on_grid k n, mul_lt_mul_iff_of_pos_right (ten_zpow_pos _), Nat.cast_lt] at hlow
  rw [hpower, mul_lt_mul_iff_of_pos_right (ten_zpow_pos _), Nat.cast_lt] at hhigh
  exact ⟨Nat.le_of_lt_succ hlow, hhigh⟩

/-- A decimal of the first grid has as many digits as that, except for the power of ten above the
    number. -/
theorem digits (h : FirstHit x k n d) (hscale : HasScale x k) :
    d.digits % 10 ≠ 0 ∧ d.size = n + 1 ∨ n = 0 ∧ d = ⟨10, k - 1⟩ := by
  obtain ⟨hlow, hhigh⟩ := lower_bounds hscale n
  obtain ⟨digits, e⟩ := d
  obtain rfl : e = k - (n + 1 : ℕ) := h.best.exponent
  have hnear : digits = x.lower (k - (n + 1 : ℕ)) ∨ digits = x.lower (k - (n + 1 : ℕ)) + 1 :=
    h.best.near
  by_cases hzero : digits % 10 = 0
  · -- Without its last digit the decimal stands on the grid before.
    refine .inr ?_
    obtain rfl : n = 0 := by
      by_contra hn
      obtain ⟨m, rfl⟩ := Nat.exists_eq_succ_of_ne_zero hn
      refine h.first m (Nat.lt_succ_self m) (digits / 10) ?_
      have hcovers := h.best.covers
      have hten : digits = digits / 10 * 10 ^ 1 := by omega
      have hexponent : k - (m + 1 : ℕ) = k - (m + 1 + 1 : ℕ) + (1 : ℕ) := by omega
      rw [Scaled.value, hten, Nat.cast_mul, mul_assoc, ← ten_zpow_add_natCast] at hcovers
      rw [hexponent]
      exact hcovers
    refine ⟨rfl, ?_⟩
    obtain rfl : digits = 10 := by
      norm_num at hlow hhigh hnear
      omega
    simp
  · refine .inl ⟨hzero, (size_eq_iff (by dsimp only; omega)).2 ?_⟩
    dsimp only
    have hpower : 10 ^ (n + 1) % 10 = 0 := by
      rw [pow_succ, Nat.mul_mod_left]
    refine ⟨by omega, lt_of_le_of_ne (by omega) fun heq => hzero (heq ▸ hpower)⟩

/-- A decimal with as many digits is on the grid, or too far away. -/
theorem closest (h : FirstHit x k n d) (hscale : HasScale x k) (hcovers : x.Covers d'.value)
    (hsize : d'.size = n + 1) (hne : d'.value ≠ d.value) :
    |x.value - d.value| < |x.value - d'.value| ∨
      |x.value - d.value| = |x.value - d'.value| ∧ d.digits % 2 = 0 ∧
        ∃ a : ℕ, d'.value = a * 10 ^ (k - (n + 1 : ℕ)) := by
  have hexponent := h.best.exponent
  rcases lt_or_ge d'.exponent (k - (n + 1 : ℕ)) with hfine | hcoarse
  · -- The power of ten that the number begins with is nearer.
    left
    have hlead : d'.lead + 1 ≤ k - 1 := by
      unfold Scaled.lead
      omega
    have hbelow := (value_lt d').trans_le (ten_zpow_le_iff.2 hlead)
    have hpower := (hcovers.between (covers_value x) hbelow.le hscale.1)
    have hnearer : |x.value - 10 ^ (k - 1)| < |x.value - d'.value| := by
      rw [abs_sub_lt_abs_sub_iff_of_gt hbelow]
      linarith [hscale.1]
    by_cases hsame : 10 ^ n = d.digits
    · rwa [Scaled.value, ← hsame, hexponent, ← ten_zpow_on_grid]
    · rw [ten_zpow_on_grid k n] at hpower hnearer
      rcases h.best.closest _ hpower hsame with hfar | ⟨hfar, -⟩
      · exact hfar.trans hnearer
      · exact hfar ▸ hnearer
  · obtain ⟨m, hm⟩ : ∃ m : ℕ, d'.exponent = k - (n + 1 : ℕ) + (m : ℕ) :=
      ⟨(d'.exponent - (k - (n + 1 : ℕ))).toNat, by omega⟩
    have hvalue : d'.value = (d'.digits * 10 ^ m : ℕ) * 10 ^ (k - (n + 1 : ℕ)) := by
      rw [Scaled.value, hm, ten_zpow_add_natCast, ← mul_assoc, ← Nat.cast_mul]
    have hdiffer : d'.digits * 10 ^ m ≠ d.digits := by
      intro heq
      rw [hvalue, heq, Scaled.value, hexponent] at hne
      exact hne rfl
    rw [hvalue] at hcovers ⊢
    exact (h.best.closest _ hcovers hdiffer).imp_right fun ⟨htie, heven⟩ => ⟨htie, heven, _, rfl⟩

end FirstHit

/-- The tenth decimal of a grid and one of the two below are not equally near to a number: such wide
    gaps are those of the least numbers, and none of these is half of a small decimal. -/
theorem not_tie_of_ten (hx : x.Canonical) {a : ℕ} (hlow : 8 ≤ a) (hhigh : a < 10)
    (hcovers : x.Covers (10 * 10 ^ k)) (htie : 2 * x.value = (10 + a : ℕ) * 10 ^ k) : False := by
  have hgap := gap_pos x
  have hten := ten_zpow_pos k
  have hvalue := value_eq_gap x
  have hlow' : (8 : ℚ) ≤ a := by exact_mod_cast hlow
  have hhigh' : (a : ℚ) ≤ 9 := by exact_mod_cast Nat.le_of_lt_succ hhigh
  push_cast at htie
  -- The interval is as wide as the grid, so the mantissa has one digit.
  have hwide : (10 : ℚ) ^ k ≤ x.gap := by
    have hreach : 10 * (10 : ℚ) ^ k ≤ x.value + x.gap / 2 := by
      rcases hcovers.below with h | ⟨h, -⟩ <;> linarith
    nlinarith
  have hmantissa : x.mantissa < 10 := by
    have hless : x.mantissa * x.gap < (10 : ℕ) * x.gap := by
      push_cast
      nlinarith
    exact_mod_cast lt_of_mul_lt_mul_right hless hgap.le
  obtain ⟨p, hp⟩ : ∃ p : ℕ, x.exponent = -(p + 1 : ℕ) := by
    refine ⟨1073, ?_⟩
    have hleast := hx.least
    by_contra hne
    have hfull := hx.full (by omega)
    omega
  have hsmall : k < 0 := by
    have hone : x.gap < 10 ^ (0 : ℤ) := by
      rw [Magnitude.gap, hp, zpow_zero]
      exact zpow_lt_one_of_neg₀ one_lt_two (by omega)
    exact ten_zpow_lt_iff.1 (hwide.trans_lt hone)
  obtain ⟨n, rfl⟩ : ∃ n : ℕ, k = -(n + 1 : ℕ) := ⟨(-k - 1).toNat, by omega⟩
  have hcount : ((2 * x.mantissa * 10 ^ (n + 1) : ℕ) : ℚ) = ((10 + a) * 2 ^ (p + 1) : ℕ) := by
    rw [hvalue, Magnitude.gap, hp, zpow_neg, zpow_neg, zpow_natCast, zpow_natCast] at htie
    push_cast
    field_simp at htie
    linarith
  have hfive : 5 ∣ (10 + a) * 2 ^ (p + 1) := by
    rw [← Nat.cast_injective hcount]
    exact Dvd.dvd.mul_left (Dvd.dvd.trans (by decide) (dvd_pow_self 10 (Nat.succ_ne_zero n))) _
  have hprime : Nat.Prime 5 := by norm_num
  rcases hprime.dvd_mul.1 hfive with h | h
  · omega
  · exact absurd (hprime.dvd_of_dvd_pow h) (by decide)

/-- When the power of ten above a number is the best decimal of the first grid, the other decimals
    of the grid are farther away. -/
theorem FirstHit.not_tie (hx : x.Canonical) (hscale : HasScale x k)
    (h : FirstHit x k 0 ⟨10, k - 1⟩) {a : ℕ}
    (htie : 2 * x.value = (10 + a : ℕ) * 10 ^ (k - 1)) : False := by
  have hten := ten_zpow_pos (k - 1)
  have hexponent : k - (0 + 1 : ℕ) = k - 1 := by simp
  have hpower : (10 : ℚ) ^ k = 10 * 10 ^ (k - 1) := by
    have hsplit := ten_zpow_add_natCast (k - 1) 1
    rw [Nat.cast_one, sub_add_cancel] at hsplit
    exact_mod_cast hsplit
  have hbelow : x.value < 10 * 10 ^ (k - 1) := hpower ▸ hscale.2
  -- The ninth decimal of the grid is not above the number, the tenth is.
  have hlower : x.lower (k - 1) = 9 := by
    have hsmall := (FirstHit.lower_bounds hscale 0).2
    have hnear := h.best.near
    rw [hexponent] at hsmall hnear
    dsimp only at hnear
    omega
  have habove := lower_le x (k - 1)
  rw [hlower] at habove
  push_cast at htie habove
  have hlow : ((8 : ℕ) : ℚ) * 10 ^ (k - 1) ≤ a * 10 ^ (k - 1) := by
    push_cast
    linarith
  have hhigh : (a : ℚ) * 10 ^ (k - 1) < (10 : ℕ) * 10 ^ (k - 1) := by
    push_cast
    linarith
  rw [mul_le_mul_iff_of_pos_right hten, Nat.cast_le] at hlow
  rw [mul_lt_mul_iff_of_pos_right hten, Nat.cast_lt] at hhigh
  exact not_tie_of_ten hx hlow hhigh h.best.covers (by push_cast; exact htie)

/-- **The printer finds the shortest decimal.** -/
theorem isShortest_shortest (hx : x.Canonical) (hlarge : x.exponent ≤ 971)
    (hpos : 0 < x.mantissa) : IsShortest x x.shortest := by
  have hscale := hasScale_scale hx hlarge hpos
  obtain ⟨n, d, hhit, hshortest⟩ := exists_firstHit hx hpos hscale
  rw [hshortest]
  rcases hhit.digits hscale with ⟨hstripped, hsize⟩ | ⟨rfl, rfl⟩
  · rw [strip_eq_self hstripped]
    refine ⟨.of_covers hx hhit.best.covers, fun d' hd' => ?_, fun d' hd' hsame hne => ?_⟩
    · obtain ⟨i, hi, a, ha⟩ := exists_hit hscale (hd'.covers hx hpos)
      have hle : n ≤ i := not_lt.1 fun hlt => hhit.first i hlt a ha
      omega
    · have hfar := hhit.closest hscale (hd'.covers hx hpos) (hsame.trans hsize) hne
      exact hfar.imp_right fun ⟨htie, heven, _⟩ => ⟨htie, heven⟩
  · rw [strip_ten]
    have hvalue := value_of_ten x.scale
    refine ⟨.of_covers hx (hvalue ▸ hhit.best.covers), fun d' _ => size_pos d',
      fun d' hd' hsame hne => .inl ?_⟩
    rw [hvalue] at hne ⊢
    rcases hhit.closest hscale (hd'.covers hx hpos) hsame hne with hfar | ⟨htie, -, a, ha⟩
    · exact hfar
    · rw [abs_sub_eq_abs_sub_iff hne.symm, ha, zero_add, Nat.cast_one] at htie
      refine (hhit.not_tie hx hscale (a := a) ?_).elim
      rw [htie, Scaled.value]
      push_cast
      ring

end Decimal
end PageLoom
