import Mathlib.Algebra.Order.Field.Power
import Mathlib.Tactic.FieldSimp
import Mathlib.Tactic.Linarith
import Mathlib.Tactic.LinearCombination
import Mathlib.Tactic.NormNum
import Mathlib.Tactic.Positivity
import Mathlib.Tactic.Ring
import PageLoom.Decimal.Shortest

set_option autoImplicit false

/-! # The number next to a decimal

A finite number stands for a rational number, its value, and so does a decimal. A decimal is read as
the number next to it, of two equally near ones the one with an even mantissa (`IsNearest`). The
numbers next to a positive one stand at a known distance, so the decimals that are read as it fill
an interval, and the test that the printer uses decides it (`readsBack_iff`). -/

namespace PageLoom
namespace Decimal

/-! ## Distances -/

section Distances

variable {q a b : ℚ}

theorem abs_sub_lt_abs_sub_iff_of_lt (h : a < b) : |q - a| < |q - b| ↔ 2 * q < a + b := by
  rw [← sq_lt_sq]
  constructor <;> intro hq <;> nlinarith

theorem abs_sub_lt_abs_sub_iff_of_gt (h : b < a) : |q - a| < |q - b| ↔ a + b < 2 * q := by
  rw [← sq_lt_sq]
  constructor <;> intro hq <;> nlinarith

theorem abs_sub_eq_abs_sub_iff (h : a ≠ b) : |q - a| = |q - b| ↔ 2 * q = a + b := by
  rw [abs_eq_abs]
  constructor
  · rintro (hsame | hopposite)
    · exact absurd (by linarith) h
    · linarith
  · exact fun hq => .inr (by linarith)

end Distances

/-! ## Values -/

/-- The number that a magnitude stands for. -/
def Magnitude.value (x : Magnitude) : ℚ := x.mantissa * 2 ^ x.exponent

/-- The number that a decimal stands for. -/
def Scaled.value (d : Scaled) : ℚ := d.digits * 10 ^ d.exponent

theorem zpow_eq_div (b : ℚ) (e : ℤ) : b ^ e = b ^ e.toNat / b ^ (-e).toNat := by
  rcases le_total 0 e with he | he
  · obtain ⟨n, rfl⟩ := Int.eq_ofNat_of_zero_le he
    simp
  · obtain ⟨n, hn⟩ := Int.eq_ofNat_of_zero_le (neg_nonneg.2 he)
    obtain rfl : e = -n := by omega
    simp [zpow_neg]

variable {x y : Magnitude} {d : Scaled} {q : ℚ}

theorem fraction_pos (x : Magnitude) : 0 < x.fraction.2 :=
  Nat.pow_pos (by decide)

theorem value_eq_fraction (x : Magnitude) : x.value = x.fraction.1 / x.fraction.2 := by
  rw [Magnitude.value, zpow_eq_div, mul_div_assoc']
  simp [Magnitude.fraction]

/-- Comparing a decimal with a fraction compares their values. -/
theorem compareScaled_eq (a : ℕ) (e : ℤ) (num : ℕ) {den : ℕ} (hden : 0 < den) :
    compareScaled a e num den = compare (a * 10 ^ e : ℚ) (num / den) := by
  have hscale : (0 : ℚ) < 10 ^ (-e).toNat * den := by positivity
  have hleft : (a * 10 ^ e : ℚ) * (10 ^ (-e).toNat * den) =
      (a * Nat.pow 10 e.toNat * den : ℕ) := by
    rw [zpow_eq_div 10]
    push_cast [Nat.pow_eq]
    field_simp
  have hright : (num / den : ℚ) * (10 ^ (-e).toNat * den) =
      (num * Nat.pow 10 (-e).toNat : ℕ) := by
    have hne : (den : ℚ) ≠ 0 := by positivity
    push_cast [Nat.pow_eq]
    field_simp
  have hlt : ∀ r s : ℚ, r < s ↔ r * (10 ^ (-e).toNat * den) < s * (10 ^ (-e).toNat * den) :=
    fun r s => (mul_lt_mul_iff_of_pos_right hscale).symm
  unfold compareScaled
  rcases lt_trichotomy (a * 10 ^ e : ℚ) (num / den) with h | h | h
  · rw [compare_lt_iff_lt.2 h, Nat.compare_eq_lt]
    rwa [hlt, hleft, hright, Nat.cast_lt] at h
  · rw [compare_eq_iff_eq.2 h, Nat.compare_eq_eq]
    have hsame := congrArg (· * (10 ^ (-e).toNat * den : ℚ)) h
    simp only [hleft, hright] at hsame
    exact_mod_cast hsame
  · rw [compare_gt_iff_gt.2 h, Nat.compare_eq_gt]
    rwa [hlt, hleft, hright, Nat.cast_lt] at h

/-! ## Numbers and their neighbours -/

/-- The magnitudes that sixty-four bits can say, and what they would say beyond the largest of
    them: of the forms a value has, the one with the fullest mantissa. -/
structure Magnitude.Canonical (x : Magnitude) : Prop where
  small : x.mantissa < 2 ^ 53
  least : -1074 ≤ x.exponent
  full : -1074 < x.exponent → 2 ^ 52 ≤ x.mantissa
  narrow : x.narrowBelow = true ↔ x.mantissa = 2 ^ 52 ∧ -1074 < x.exponent

/-- The gap to the number above. -/
def Magnitude.gap (x : Magnitude) : ℚ := 2 ^ x.exponent

/-- The gap to the number below. -/
def Magnitude.gapBelow (x : Magnitude) : ℚ := if x.narrowBelow then x.gap / 2 else x.gap

theorem gap_pos (x : Magnitude) : 0 < x.gap := zpow_pos two_pos _

theorem gapBelow_pos (x : Magnitude) : 0 < x.gapBelow := by
  have hgap := gap_pos x
  unfold Magnitude.gapBelow
  split <;> linarith

theorem gapBelow_le (x : Magnitude) : x.gapBelow ≤ x.gap := by
  have hgap := gap_pos x
  unfold Magnitude.gapBelow
  split <;> linarith

theorem value_eq_gap (x : Magnitude) : x.value = x.mantissa * x.gap := rfl

/-- A magnitude with a coarser gap counts in the finer one. -/
theorem value_eq_of_le (h : x.exponent ≤ y.exponent) :
    y.value = (y.mantissa * 2 ^ (y.exponent - x.exponent).toNat : ℕ) * x.gap := by
  have hexponent : y.exponent = ((y.exponent - x.exponent).toNat : ℤ) + x.exponent := by omega
  rw [Magnitude.value, Magnitude.gap]
  conv_lhs => rw [hexponent, zpow_add₀ two_ne_zero, zpow_natCast]
  push_cast
  ring

/-- A magnitude with a finer gap is not above the least one with a coarser gap. -/
theorem value_le_of_exponent_lt (hy : y.Canonical) (h : y.exponent < x.exponent) :
    y.value ≤ (2 ^ 53 - 1) * (x.gap / 2) := by
  have hmantissa : (y.mantissa : ℚ) ≤ 2 ^ 53 - 1 := by
    have hsmall : y.mantissa + 1 ≤ 2 ^ 53 := hy.small
    have hcast : ((y.mantissa + 1 : ℕ) : ℚ) ≤ (2 ^ 53 : ℕ) := Nat.cast_le.2 hsmall
    push_cast at hcast
    linarith
  have hgap : y.gap ≤ x.gap / 2 := by
    have hhalf : x.gap / 2 = 2 ^ (x.exponent - 1) := by
      rw [Magnitude.gap, zpow_sub₀ two_ne_zero, zpow_one]
    rw [hhalf, Magnitude.gap]
    exact zpow_le_zpow_right₀ one_le_two (by omega)
  rw [value_eq_gap]
  exact mul_le_mul hmantissa hgap (gap_pos y).le (by norm_num)

/-- No number is closer above than the gap. -/
theorem add_gap_le (hx : x.Canonical) (hy : y.Canonical) (h : x.value < y.value) :
    x.value + x.gap ≤ y.value := by
  have hgap := gap_pos x
  rcases le_or_gt x.exponent y.exponent with hle | hlt
  · -- Both are counted in the gap of `x`.
    rw [value_eq_of_le hle, value_eq_gap, mul_lt_mul_iff_of_pos_right hgap, Nat.cast_lt] at h
    have hcount : ((x.mantissa + 1 : ℕ) : ℚ) ≤
        (y.mantissa * 2 ^ (y.exponent - x.exponent).toNat : ℕ) := Nat.cast_le.2 h
    rw [value_eq_of_le hle, value_eq_gap]
    calc (x.mantissa : ℚ) * x.gap + x.gap = ((x.mantissa + 1 : ℕ) : ℚ) * x.gap := by
          push_cast
          ring
      _ ≤ _ := mul_le_mul_of_nonneg_right hcount hgap.le
  · -- A finer gap belongs to smaller numbers.
    have hfull : ((2 ^ 52 : ℕ) : ℚ) ≤ x.mantissa :=
      Nat.cast_le.2 (hx.full (lt_of_le_of_lt hy.least hlt))
    have hsmall := value_le_of_exponent_lt hy hlt
    rw [value_eq_gap x] at h
    push_cast at hfull
    nlinarith

/-- No number is closer below than the gap there. -/
theorem le_sub_gapBelow (hx : x.Canonical) (hy : y.Canonical) (h : y.value < x.value) :
    y.value ≤ x.value - x.gapBelow := by
  have hgap := gap_pos x
  rcases le_or_gt x.exponent y.exponent with hle | hlt
  · rw [value_eq_of_le hle, value_eq_gap, mul_lt_mul_iff_of_pos_right hgap, Nat.cast_lt] at h
    have hcount : ((y.mantissa * 2 ^ (y.exponent - x.exponent).toNat + 1 : ℕ) : ℚ) ≤
        x.mantissa := Nat.cast_le.2 h
    have hbelow := gapBelow_le x
    rw [value_eq_of_le hle, value_eq_gap]
    push_cast at hcount ⊢
    nlinarith
  · have hsmall := value_le_of_exponent_lt hy hlt
    have hexponent : -1074 < x.exponent := lt_of_le_of_lt hy.least hlt
    rcases (hx.full hexponent).eq_or_lt with heq | hmore
    · -- The least mantissa: the gap below is half as wide.
      have hnarrow : x.gapBelow = x.gap / 2 := if_pos (hx.narrow.2 ⟨heq.symm, hexponent⟩)
      rw [value_eq_gap x, ← heq, hnarrow]
      push_cast
      linarith
    · have hmantissa : ((2 ^ 52 + 1 : ℕ) : ℚ) ≤ x.mantissa := Nat.cast_le.2 hmore
      have hbelow := gapBelow_le x
      rw [value_eq_gap x]
      push_cast at hmantissa
      nlinarith

/-- The magnitude of a mantissa and an exponent. -/
def Magnitude.ofParts (mantissa : ℕ) (exponent : ℤ) : Magnitude :=
  ⟨mantissa, exponent, decide (mantissa = 2 ^ 52 ∧ -1074 < exponent)⟩

theorem canonical_ofParts {m : ℕ} {e : ℤ} (hsmall : m < 2 ^ 53) (hleast : -1074 ≤ e)
    (hfull : -1074 < e → 2 ^ 52 ≤ m) : (Magnitude.ofParts m e).Canonical :=
  ⟨hsmall, hleast, hfull, decide_eq_true_iff⟩

/-- The number above. -/
theorem exists_next (hx : x.Canonical) :
    ∃ y : Magnitude, y.Canonical ∧ y.value = x.value + x.gap := by
  have hleast := hx.least
  by_cases hlast : x.mantissa + 1 = 2 ^ 53
  · refine ⟨.ofParts (2 ^ 52) (x.exponent + 1),
      canonical_ofParts (by decide) (by omega) fun _ => le_rfl, ?_⟩
    have hmantissa : ((x.mantissa + 1 : ℕ) : ℚ) = (2 ^ 53 : ℕ) := congrArg _ hlast
    push_cast at hmantissa
    rw [value_eq_gap x, Magnitude.value, Magnitude.gap]
    simp only [Magnitude.ofParts, zpow_add₀ (two_ne_zero : (2 : ℚ) ≠ 0), zpow_one]
    push_cast
    linear_combination -((2 : ℚ) ^ x.exponent) * hmantissa
  · refine ⟨.ofParts (x.mantissa + 1) x.exponent, canonical_ofParts
      (lt_of_le_of_ne hx.small hlast) hleast fun he => Nat.le_succ_of_le (hx.full he), ?_⟩
    rw [value_eq_gap x, Magnitude.value, Magnitude.gap]
    simp only [Magnitude.ofParts]
    push_cast
    ring

/-- The number below, down to zero. -/
theorem exists_previous (hx : x.Canonical) (hpos : 0 < x.mantissa) :
    ∃ y : Magnitude, y.Canonical ∧ y.value = x.value - x.gapBelow := by
  have hsmall := hx.small
  have hleast := hx.least
  by_cases hnarrow : x.narrowBelow = true
  · obtain ⟨hmantissa, hexponent⟩ := hx.narrow.1 hnarrow
    refine ⟨.ofParts (2 ^ 53 - 1) (x.exponent - 1),
      canonical_ofParts (by decide) (by omega) fun _ => by decide, ?_⟩
    rw [Magnitude.gapBelow, if_pos hnarrow, value_eq_gap x, Magnitude.value, Magnitude.gap,
      hmantissa]
    simp only [Magnitude.ofParts, zpow_sub₀ (two_ne_zero : (2 : ℚ) ≠ 0), zpow_one]
    norm_num
    ring
  · refine ⟨.ofParts (x.mantissa - 1) x.exponent, canonical_ofParts (by omega) hleast
      fun he => ?_, ?_⟩
    · have hfull := hx.full he
      have hne : x.mantissa ≠ 2 ^ 52 := fun h => hnarrow (hx.narrow.2 ⟨h, he⟩)
      omega
    · have hmantissa : ((x.mantissa - 1 : ℕ) : ℚ) = x.mantissa - 1 := Nat.cast_pred hpos
      rw [Magnitude.gapBelow, if_neg hnarrow, value_eq_gap x, Magnitude.value, Magnitude.gap]
      simp only [Magnitude.ofParts, hmantissa]
      ring

theorem canonical_ofBits {bits : UInt64} {negative : Bool}
    (h : Binary.ofBits bits = .finite negative x) : x.Canonical ∧ x.exponent ≤ 971 := by
  have hfraction : (bits &&& 0xFFFFFFFFFFFFF).toNat < 2 ^ 52 := by
    rw [UInt64.toNat_and]
    exact lt_of_le_of_lt Nat.and_le_right (by decide)
  have hfield : ((bits >>> 52) &&& 0x7FF).toNat ≤ 0x7FF := by
    rw [UInt64.toNat_and]
    exact Nat.and_le_right
  simp only [Binary.ofBits, beq_iff_eq] at h
  generalize (bits &&& 0xFFFFFFFFFFFFF).toNat = fraction at h hfraction
  generalize ((bits >>> 52) &&& 0x7FF).toNat = field at h hfield
  split at h
  next => split at h <;> cases h
  next hfinite =>
    split at h
    next =>
      obtain ⟨-, rfl⟩ := Binary.finite.inj h
      exact ⟨⟨by dsimp only; omega, le_rfl, fun h => absurd h (lt_irrefl _), by simp⟩,
        by dsimp only; omega⟩
    next hnormal =>
      obtain ⟨-, rfl⟩ := Binary.finite.inj h
      refine ⟨⟨by dsimp only; omega, by dsimp only; omega, fun _ => by dsimp only; omega, ?_⟩,
        by dsimp only; omega⟩
      simp only [Bool.and_eq_true, beq_iff_eq, decide_eq_true_eq]
      omega

/-! ## Reading a decimal -/

/-- No number is as near as this one, or one as near has an odd mantissa. -/
def IsNearest (q : ℚ) (x : Magnitude) : Prop :=
  ∀ y : Magnitude, y.Canonical → y.value ≠ x.value →
    |q - x.value| < |q - y.value| ∨ |q - x.value| = |q - y.value| ∧ x.mantissa % 2 = 0

/-- The interval between the midpoints towards the neighbours, which belong to it exactly when the
    mantissa is even. -/
structure Magnitude.Covers (x : Magnitude) (q : ℚ) : Prop where
  above : x.value - x.gapBelow / 2 < q ∨ x.value - x.gapBelow / 2 = q ∧ x.mantissa % 2 = 0
  below : q < x.value + x.gap / 2 ∨ q = x.value + x.gap / 2 ∧ x.mantissa % 2 = 0

theorem IsNearest.of_covers (hx : x.Canonical) (h : x.Covers q) : IsNearest q x := by
  intro y hy hne
  rcases lt_or_gt_of_ne hne with hlt | hgt
  · have hfar := le_sub_gapBelow hx hy hlt
    rw [abs_sub_lt_abs_sub_iff_of_gt hlt, abs_sub_eq_abs_sub_iff hne.symm]
    rcases h.above with habove | ⟨htie, heven⟩
    · exact .inl (by linarith)
    · rcases hfar.eq_or_lt with heq | hfar
      · exact .inr ⟨by linarith, heven⟩
      · exact .inl (by linarith)
  · have hfar := add_gap_le hx hy hgt
    rw [abs_sub_lt_abs_sub_iff_of_lt hgt, abs_sub_eq_abs_sub_iff hne.symm]
    rcases h.below with hbelow | ⟨htie, heven⟩
    · exact .inl (by linarith)
    · rcases hfar.eq_or_lt with heq | hfar
      · exact .inr ⟨by linarith, heven⟩
      · exact .inl (by linarith)

theorem IsNearest.covers (hx : x.Canonical) (hpos : 0 < x.mantissa) (h : IsNearest q x) :
    x.Covers q := by
  constructor
  · obtain ⟨y, hy, hvalue⟩ := exists_previous hx hpos
    have hlt : y.value < x.value := by linarith [gapBelow_pos x]
    have hnearest := h y hy hlt.ne
    rw [abs_sub_lt_abs_sub_iff_of_gt hlt, abs_sub_eq_abs_sub_iff hlt.ne'] at hnearest
    exact hnearest.imp (fun h => by linarith) fun ⟨h, heven⟩ => ⟨by linarith, heven⟩
  · obtain ⟨y, hy, hvalue⟩ := exists_next hx
    have hgt : x.value < y.value := by linarith [gap_pos x]
    have hnearest := h y hy hgt.ne'
    rw [abs_sub_lt_abs_sub_iff_of_lt hgt, abs_sub_eq_abs_sub_iff hgt.ne] at hnearest
    exact hnearest.imp (fun h => by linarith) fun ⟨h, heven⟩ => ⟨by linarith, heven⟩

/-- What lies between two decimals that are read as a number is read as it, too. -/
theorem Magnitude.Covers.between {q₁ q₂ : ℚ} (h₁ : x.Covers q₁) (h₂ : x.Covers q₂) (hle₁ : q₁ ≤ q)
    (hle₂ : q ≤ q₂) : x.Covers q := by
  constructor
  · rcases h₁.above with h | ⟨h, heven⟩
    · exact .inl (by linarith)
    · rcases hle₁.eq_or_lt with rfl | hlt
      · exact .inr ⟨h, heven⟩
      · exact .inl (by linarith)
  · rcases h₂.below with h | ⟨h, heven⟩
    · exact .inl (by linarith)
    · rcases hle₂.eq_or_lt with rfl | hlt
      · exact .inr ⟨h, heven⟩
      · exact .inl (by linarith)

theorem covers_value (x : Magnitude) : x.Covers x.value :=
  ⟨.inl (by linarith [gapBelow_pos x]), .inl (by linarith [gap_pos x])⟩

/-- Only positive decimals are read as a positive number. -/
theorem Magnitude.Covers.pos (hpos : 0 < x.mantissa) (h : x.Covers q) : 0 < q := by
  have hmantissa : ((1 : ℕ) : ℚ) ≤ x.mantissa := Nat.cast_le.2 hpos
  have hgap := gap_pos x
  have hvalue : x.gap ≤ x.value := by
    rw [value_eq_gap]
    push_cast at hmantissa
    nlinarith
  have hbelow := gapBelow_le x
  rcases h.above with h | ⟨h, -⟩ <;> linarith

/-! ## The test of the printer -/

theorem gap_eq_div (x : Magnitude) :
    x.gap = (Nat.pow 2 x.exponent.toNat : ℕ) / x.fraction.2 := by
  rw [Magnitude.gap, zpow_eq_div]
  simp [Magnitude.fraction]

/-- The test that the printer uses decides whether a decimal is read as a number. -/
theorem readsBack_iff (hpos : 0 < x.mantissa) : x.readsBack d = true ↔ x.Covers d.value := by
  have hden : (0 : ℚ) < x.fraction.2 := Nat.cast_pos.2 (fraction_pos x)
  have hden4 : 0 < 4 * x.fraction.2 := Nat.mul_pos (by decide) (fraction_pos x)
  have hunit : Nat.pow 2 x.exponent.toNat ≤ x.fraction.1 := Nat.le_mul_of_pos_left _ hpos
  have hhigh : ((4 * x.fraction.1 + 2 * Nat.pow 2 x.exponent.toNat : ℕ) : ℚ) /
      (4 * x.fraction.2 : ℕ) = x.value + x.gap / 2 := by
    rw [value_eq_fraction, gap_eq_div]
    push_cast
    field_simp
    ring
  have hlow : ((4 * x.fraction.1 - (if x.narrowBelow then Nat.pow 2 x.exponent.toNat
        else 2 * Nat.pow 2 x.exponent.toNat) : ℕ) : ℚ) / (4 * x.fraction.2 : ℕ) =
      x.value - x.gapBelow / 2 := by
    rw [value_eq_fraction, Magnitude.gapBelow, gap_eq_div]
    split
    · rw [Nat.cast_sub (by omega)]
      push_cast
      field_simp
      ring
    · rw [Nat.cast_sub (by omega)]
      push_cast
      field_simp
      ring
  have hvalue : (d.digits * 10 ^ d.exponent : ℚ) = d.value := rfl
  unfold Magnitude.readsBack
  simp only [compareScaled_eq _ _ _ hden4, hlow, hhigh, hvalue, Bool.and_eq_true, Bool.or_eq_true,
    beq_iff_eq, compare_gt_iff_gt, compare_lt_iff_lt, compare_eq_iff_eq]
  constructor
  · rintro ⟨habove, hbelow⟩
    exact ⟨habove.imp_right fun h => ⟨h.2.symm, h.1⟩, hbelow.imp_right And.symm⟩
  · rintro ⟨habove, hbelow⟩
    exact ⟨habove.imp_right fun h => ⟨h.2, h.1.symm⟩, hbelow.imp_right And.symm⟩

end Decimal
end PageLoom
