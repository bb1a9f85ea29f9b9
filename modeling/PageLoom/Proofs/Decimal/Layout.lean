import PageLoom.Decimal.Notation
import PageLoom.Proofs.Decimal.Shortest

set_option autoImplicit false

/-! # How decimals are laid out

A notation writes the digits of a decimal around a point, or with an exponent (`layout_eq`). Which
of both it was shows in the text, and so does the width of the exponent, so different layouts give
different texts. The rule by which scripts write numbers is stated on its own (`ScriptForm`), and
the notation of scripts follows it (`scriptForm_iff`). -/

namespace PageLoom

namespace Text

variable {n m : ℕ}

/-! ## Digits of a natural number -/

theorem length_ofNat (h : 0 < n) : (ofNat n).length = Nat.log 10 n + 1 := by
  have hle : ∀ k, (ofNat n).length ≤ k + 1 ↔ Nat.log 10 n ≤ k := fun k => by
    rw [ofNat, Nat.length_toDigits_le_iff (by decide) (Nat.succ_pos k),
      ← Nat.log_lt_iff_lt_pow (by decide) h.ne', Nat.lt_succ_iff]
  have hpos : 0 < (ofNat n).length := Nat.length_toDigits_pos
  have hup := (hle (Nat.log 10 n)).2 le_rfl
  have hdown := (hle ((ofNat n).length - 1)).1 (by omega)
  omega

theorem isDigit_of_mem_ofNat {c : Char} (h : c ∈ ofNat n) : c.isDigit = true :=
  Nat.isDigit_of_mem_toDigits (by decide) (by decide) h

theorem ofNat_injective : Function.Injective ofNat := fun n m h => by
  rw [← Nat.ofDigitChars_ten_toDigits (n := n), ← Nat.ofDigitChars_ten_toDigits (n := m)]
  exact congrArg (Nat.ofDigitChars 10 · 0) h

/-- Powers of ten are written as zeros. -/
theorem ofNat_mul_ten_pow (h : 0 < n) (k : ℕ) :
    ofNat (n * 10 ^ k) = ofNat n ++ List.replicate k '0' := by
  induction k with
  | zero => simp
  | succ k ih =>
      have hpos : 0 < n * 10 ^ k := Nat.mul_pos h (Nat.pow_pos (by decide))
      have hlast := Nat.toDigits_append_toDigits (b := 10) (by decide) hpos (by decide : 0 < 10)
      rw [pow_succ, ← mul_assoc, mul_comm _ 10, List.replicate_succ', ← List.append_assoc, ← ih]
      exact hlast.symm

end Text

namespace Decimal

variable {d : Scaled}

/-! ## The two layouts -/

/-- The digits of a decimal around a point; a whole number may end in `.0`. -/
def positional (pointZero : Bool) (d : Scaled) : Text :=
  if 0 ≤ d.exponent then
    Text.ofNat d.digits ++ List.replicate d.exponent.toNat '0' ++ (if pointZero then ".0" else "")
  else if 0 ≤ d.lead then
    (Text.ofNat d.digits).take (d.lead + 1).toNat ++
      '.' :: (Text.ofNat d.digits).drop (d.lead + 1).toNat
  else "0." ++ List.replicate (-d.lead - 1).toNat '0' ++ Text.ofNat d.digits

/-- The digits of a decimal before an exponent, up to the sign of the exponent. -/
def significand (d : Scaled) : Text :=
  (Text.ofNat d.digits).take 1 ++
    (if ((Text.ofNat d.digits).drop 1).isEmpty then [] else '.' :: (Text.ofNat d.digits).drop 1) ++
    (if d.lead < 0 then "e-" else "e+")

/-- A decimal with an exponent. -/
def scientific (width : ℕ) (d : Scaled) : Text :=
  significand d ++ Text.padLeft width '0' (Text.ofNat d.lead.natAbs)

theorem length_digits (hpos : 0 < d.digits) : (Text.ofNat d.digits).length = d.size :=
  Text.length_ofNat hpos

theorem layout_eq (style : Notation) (hpos : 0 < d.digits) :
    style.layout d =
      if style.plainFrom ≤ d.lead ∧ d.lead < style.plainBelow then positional style.pointZero d
      else scientific style.exponentWidth d := by
  have hlead : d.exponent + ((Text.ofNat d.digits).length : ℤ) - 1 = d.lead := by
    rw [length_digits hpos, Scaled.lead]
  unfold Notation.layout positional scientific significand
  simp only [hlead]

theorem mem_scientific (width : ℕ) (d : Scaled) : 'e' ∈ scientific width d := by
  by_cases hlead : d.lead < 0 <;> simp [scientific, significand, hlead]

theorem not_mem_digits {n : ℕ} {c : Char} (hc : c.isDigit = false) : c ∉ Text.ofNat n := fun h =>
  Bool.false_ne_true (hc.symm.trans (Text.isDigit_of_mem_ofNat h))

theorem not_mem_positional {c : Char} (hdigit : c.isDigit = false) (hpoint : c ≠ '.')
    (pointZero : Bool) (d : Scaled) : c ∉ positional pointZero d := by
  have hdigits := not_mem_digits (n := d.digits) hdigit
  have hzero : c ≠ '0' := by
    rintro rfl
    cases hdigit
  unfold positional
  split
  · cases pointZero <;> simp [hdigits, hpoint, hzero]
  · split
    · simp only [List.mem_append, List.mem_cons, not_or]
      exact ⟨fun h => hdigits (List.mem_of_mem_take h), hpoint,
        fun h => hdigits (List.mem_of_mem_drop h)⟩
    · simp [hdigits, hpoint, hzero]

theorem positional_ne_scientific (pointZero : Bool) (width : ℕ) (d d' : Scaled) :
    positional pointZero d ≠ scientific width d' := fun h =>
  not_mem_positional rfl (by decide) pointZero d (h ▸ mem_scientific width d')

/-- Decimals with a fraction end in no `.0`. -/
theorem positional_of_neg (h : d.exponent < 0) (pointZero : Bool) :
    positional pointZero d = positional false d := by
  rw [positional, positional, if_neg (not_le.2 h), if_neg (not_le.2 h)]

/-- Without an exponent below zero, the digits around the point are those of a whole number. -/
theorem positional_of_nonneg (hpos : 0 < d.digits) (h : 0 ≤ d.exponent) :
    positional false d = Text.ofNat (d.digits * 10 ^ d.exponent.toNat) := by
  rw [positional, if_pos h, Text.ofNat_mul_ten_pow hpos]
  simp

/-- An exponent of at least two digits looks the same when fewer are asked for. -/
theorem scientific_two_eq_iff : scientific 2 d = scientific 1 d ↔ 10 ≤ d.lead.natAbs := by
  have hlength : (Text.ofNat d.lead.natAbs).length ≤ 1 ↔ d.lead.natAbs < 10 ^ 1 :=
    Nat.length_toDigits_le_iff (by decide) (by decide)
  have hpos : 0 < (Text.ofNat d.lead.natAbs).length := Nat.length_toDigits_pos
  rw [scientific, scientific, List.append_cancel_left_eq]
  unfold Text.padLeft
  constructor
  · intro h
    have hsame := congrArg List.length h
    simp only [List.length_append, List.length_replicate] at hsame
    omega
  · intro h
    have htwo : 2 - (Text.ofNat d.lead.natAbs).length = 0 := by omega
    have hone : 1 - (Text.ofNat d.lead.natAbs).length = 0 := by omega
    rw [htwo, hone]

/-! ## The rule of scripts -/

/-- How scripts write digits whose point stands behind the first `n` of them: in front or behind
    with as many zeros as it takes, but with an exponent when it stands too far away. -/
inductive ScriptForm (digits : Text) (n : ℤ) : Text → Prop
  | whole (hfrom : digits.length ≤ n) (hto : n ≤ 21) :
      ScriptForm digits n (digits ++ List.replicate (n - digits.length).toNat '0')
  | mixed (hfrom : 0 < n) (hto : n ≤ 21) (hless : n < digits.length) :
      ScriptForm digits n (digits.take n.toNat ++ '.' :: digits.drop n.toNat)
  | small (hfrom : -6 < n) (hto : n ≤ 0) :
      ScriptForm digits n ('0' :: '.' :: List.replicate (-n).toNat '0' ++ digits)
  | single (hfar : n ≤ -6 ∨ 21 < n) {c : Char} (hdigits : digits = [c]) :
      ScriptForm digits n
        (c :: 'e' :: (if n - 1 < 0 then '-' else '+') :: Text.ofNat (n - 1).natAbs)
  | several (hfar : n ≤ -6 ∨ 21 < n) {c : Char} {rest : Text} (hdigits : digits = c :: rest)
      (hrest : rest ≠ []) :
      ScriptForm digits n
        (c :: '.' :: rest ++ 'e' :: (if n - 1 < 0 then '-' else '+') :: Text.ofNat (n - 1).natAbs)

section Script

variable {c : Char} {rest : Text}

theorem layout_script_of_near (hpos : 0 < d.digits) (hfrom : -6 ≤ d.lead) (hto : d.lead < 21) :
    scriptNotation.layout d = positional false d := by
  rw [layout_eq _ hpos]
  exact if_pos ⟨hfrom, hto⟩

theorem layout_script_of_far (hpos : 0 < d.digits) (hfar : d.lead < -6 ∨ 21 ≤ d.lead) :
    scriptNotation.layout d = scientific 1 d := by
  rw [layout_eq _ hpos]
  refine if_neg ?_
  rintro ⟨hfrom, hto⟩
  change -6 ≤ d.lead at hfrom
  change d.lead < 21 at hto
  omega

/-- An exponent asks for no digits that it does not have. -/
theorem padLeft_ofNat (n : ℕ) : Text.padLeft 1 '0' (Text.ofNat n) = Text.ofNat n := by
  have hpos : 0 < (Text.ofNat n).length := Nat.length_toDigits_pos
  have hnone : 1 - (Text.ofNat n).length = 0 := by omega
  rw [Text.padLeft, hnone]
  rfl

theorem scientific_single (hdigits : Text.ofNat d.digits = [c]) :
    scientific 1 d = c :: 'e' :: (if d.lead < 0 then '-' else '+') :: Text.ofNat d.lead.natAbs := by
  rw [scientific, significand, padLeft_ofNat, hdigits]
  by_cases hneg : d.lead < 0 <;> simp [hneg]

theorem scientific_several (hdigits : Text.ofNat d.digits = c :: rest) (hrest : rest ≠ []) :
    scientific 1 d =
      c :: '.' :: rest ++ 'e' :: (if d.lead < 0 then '-' else '+') :: Text.ofNat d.lead.natAbs := by
  have hnot : rest.isEmpty = false := by simpa using hrest
  rw [scientific, significand, padLeft_ofNat, hdigits]
  simp only [List.drop_succ_cons, List.drop_zero, hnot, List.take_succ_cons, List.take_zero,
    Bool.false_eq_true, if_false]
  split <;> simp

/-- The notation of scripts follows their rule. -/
theorem scriptForm_iff (hpos : 0 < d.digits) {t : Text} :
    ScriptForm (Text.ofNat d.digits) (d.exponent + d.size) t ↔ t = scriptNotation.layout d := by
  have hlength := length_digits hpos
  have hsize := size_pos d
  have hlead : d.exponent + d.size = d.lead + 1 := by
    unfold Scaled.lead
    omega
  have hexponent : d.exponent = d.lead + 1 - d.size := by omega
  rw [hlead]
  constructor
  · intro h
    cases h with
    | whole hfrom hto =>
        rw [hlength] at hfrom
        rw [layout_script_of_near hpos (by omega) (by omega), positional, if_pos (by omega),
          hlength, hexponent]
        exact (List.append_nil _).symm
    | mixed hfrom hto hless =>
        rw [hlength] at hless
        rw [layout_script_of_near hpos (by omega) (by omega), positional, if_neg (by omega),
          if_pos (by omega)]
    | small hfrom hto =>
        rw [layout_script_of_near hpos (by omega) (by omega), positional, if_neg (by omega),
          if_neg (by omega), neg_add']
        rfl
    | single hfar hdigits =>
        rw [layout_script_of_far hpos (by omega), scientific_single hdigits, add_sub_cancel_right]
    | several hfar hdigits hrest =>
        rw [layout_script_of_far hpos (by omega), scientific_several hdigits hrest,
          add_sub_cancel_right]
  · rintro rfl
    by_cases hnear : -6 ≤ d.lead ∧ d.lead < 21
    · rw [layout_script_of_near hpos hnear.1 hnear.2, positional]
      split
      next hwhole =>
        have hform : ScriptForm (Text.ofNat d.digits) (d.lead + 1) _ :=
          .whole (by omega) (by omega)
        rw [hlength, ← hexponent] at hform
        exact (List.append_nil _).symm ▸ hform
      next hfraction =>
        split
        next => exact .mixed (by omega) (by omega) (by omega)
        next =>
          have hform : ScriptForm (Text.ofNat d.digits) (d.lead + 1) _ :=
            .small (by omega) (by omega)
          rwa [neg_add'] at hform
    · have hfar : d.lead < -6 ∨ 21 ≤ d.lead := by omega
      rw [layout_script_of_far hpos hfar]
      cases hdigits : Text.ofNat d.digits with
      | nil => exact absurd hdigits Nat.toDigits_ne_nil
      | cons c rest =>
          by_cases hrest : rest = []
          · subst hrest
            rw [scientific_single hdigits]
            have hform := ScriptForm.single (n := d.lead + 1) (by omega) (rfl : [c] = [c])
            rwa [add_sub_cancel_right] at hform
          · rw [scientific_several hdigits hrest]
            have hform := ScriptForm.several (n := d.lead + 1) (by omega)
              (rfl : c :: rest = c :: rest) hrest
            rwa [add_sub_cancel_right] at hform

end Script

end Decimal
end PageLoom
