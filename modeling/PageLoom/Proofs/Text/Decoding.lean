import PageLoom.Proofs.Text.Utf8

set_option autoImplicit false

/-! # Which octets are a text

A sequence that is read as a character is the one that writes it (`encode_of_front`): no character
is written in two ways. So octets are a text exactly if they are its own octets
(`decode_eq_ok_iff`), and all others are rejected. -/

namespace PageLoom
namespace Utf8

variable {lead b c d : UInt8} {rest octets : Octets} {t : Text}

/-! ## Octets from numbers -/

section Number

variable {n : Nat}

theorem toNat_char (hvalid : n < 0xD800 ∨ 0xDFFF < n ∧ n < 0x110000) :
    (Char.ofNat n).val.toNat = n := by
  have hisValid : n.isValidChar := hvalid
  rw [Char.ofNat, dif_pos hisValid]
  rfl

theorem octet_eq {n : Nat} (h : n = b.toNat) : UInt8.ofNat n = b := by
  rw [h, UInt8.ofNat_toNat]

theorem utf8EncodeChar_one (h : n < 128) : String.utf8EncodeChar (Char.ofNat n) = [UInt8.ofNat n] := by
  have hval := toNat_char (n := n) (by omega)
  simp only [String.utf8EncodeChar, hval]
  rw [if_pos (by omega)]

theorem utf8EncodeChar_two (hlow : 127 < n) (hhigh : n ≤ 2047) :
    String.utf8EncodeChar (Char.ofNat n) =
      [UInt8.ofNat (n / 64 % 32 + 192), UInt8.ofNat (n % 64 + 128)] := by
  have hval := toNat_char (n := n) (by omega)
  simp only [String.utf8EncodeChar, hval]
  rw [if_neg (by omega), if_pos hhigh]

theorem utf8EncodeChar_three (hlow : 2047 < n) (hhigh : n ≤ 65535)
    (hvalid : n < 0xD800 ∨ 0xDFFF < n) :
    String.utf8EncodeChar (Char.ofNat n) =
      [UInt8.ofNat (n / 4096 % 16 + 224), UInt8.ofNat (n / 64 % 64 + 128),
        UInt8.ofNat (n % 64 + 128)] := by
  have hval := toNat_char (n := n) (by omega)
  simp only [String.utf8EncodeChar, hval]
  rw [if_neg (by omega), if_neg (by omega), if_pos hhigh]

theorem utf8EncodeChar_four (hlow : 65535 < n) (hhigh : n < 0x110000) :
    String.utf8EncodeChar (Char.ofNat n) =
      [UInt8.ofNat (n / 262144 % 8 + 240), UInt8.ofNat (n / 4096 % 64 + 128),
        UInt8.ofNat (n / 64 % 64 + 128), UInt8.ofNat (n % 64 + 128)] := by
  have hval := toNat_char (n := n) (by omega)
  simp only [String.utf8EncodeChar, hval]
  rw [if_neg (by omega), if_neg (by omega), if_neg (by omega)]

end Number

/-! ## Sequences -/

theorem range_of_owed? {k : Nat} (h : owed? lead = some k) :
    (k = 0 ∧ lead.toNat < 128) ∨ (k = 1 ∧ 194 ≤ lead.toNat ∧ lead.toNat ≤ 223) ∨
      (k = 2 ∧ 224 ≤ lead.toNat ∧ lead.toNat ≤ 239) ∨
      (k = 3 ∧ 240 ≤ lead.toNat ∧ lead.toNat ≤ 244) := by
  rw [owed?_eq] at h
  split_ifs at h <;> cases h <;> omega

theorem encode_two (howed : owed? lead = some 1) (hb : isSecond lead b) :
    String.utf8EncodeChar (Char.ofNat (lead.toNat % 32 * 64 + payload b)) = [lead, b] := by
  have hlead := range_of_owed? howed
  have hsecond := (isSecond_iff lead b).1 hb
  rw [payload, utf8EncodeChar_two (by omega) (by omega), octet_eq (b := lead) (by omega),
    octet_eq (b := b) (by omega)]

/-- The bounds on the second octet leave out overlong forms and surrogates. -/
theorem encode_three (howed : owed? lead = some 2) (hb : isSecond lead b)
    (hc : isTail c) :
    String.utf8EncodeChar (Char.ofNat (lead.toNat % 16 * 4096 + payload b * 64 + payload c)) =
      [lead, b, c] := by
  have hlead := range_of_owed? howed
  have hsecond := (isSecond_iff lead b).1 hb
  have htail := (isTail_iff c).1 hc
  rw [payload, payload, utf8EncodeChar_three (by omega) (by omega) (by omega),
    octet_eq (b := lead) (by omega), octet_eq (b := b) (by omega), octet_eq (b := c) (by omega)]

theorem encode_four {k : Nat} (howed : owed? lead = some k) (hk : 2 < k) (hb : isSecond lead b)
    (hc : isTail c) (hd : isTail d) :
    String.utf8EncodeChar (Char.ofNat
      (lead.toNat % 8 * 262144 + payload b * 4096 + payload c * 64 + payload d)) =
        [lead, b, c, d] := by
  have hlead := range_of_owed? howed
  have hsecond := (isSecond_iff lead b).1 hb
  have htail := (isTail_iff c).1 hc
  have htail' := (isTail_iff d).1 hd
  rw [payload, payload, payload, utf8EncodeChar_four (by omega) (by omega),
    octet_eq (b := lead) (by omega), octet_eq (b := b) (by omega), octet_eq (b := c) (by omega),
    octet_eq (b := d) (by omega)]

/-- **What is read as a character is what writes it.** -/
theorem encode_of_front {ch : Char} {size : Nat} (h : front lead rest = .character ch size) :
    lead :: rest = String.utf8EncodeChar ch ++ rest.drop (size - 1) := by
  unfold front at h
  split at h
  next => cases h
  next howed =>
    obtain ⟨rfl, rfl⟩ := Front.character.inj h
    have hlead := range_of_owed? howed
    rw [utf8EncodeChar_one (by omega), UInt8.ofNat_toNat]
    rfl
  next => cases h
  next b tail howed =>
    split_ifs at h with hb
    obtain ⟨rfl, rfl⟩ := Front.character.inj h
    rw [encode_two howed hb]
    rfl
  next => split_ifs at h
  next b c tail howed =>
    split_ifs at h with hb hc
    obtain ⟨rfl, rfl⟩ := Front.character.inj h
    rw [encode_three howed hb hc]
    rfl
  next => split_ifs at h
  next => split_ifs at h
  next k b c d tail hzero hone htwo howed =>
    split_ifs at h with hb hc hd
    obtain ⟨rfl, rfl⟩ := Front.character.inj h
    have hk : 2 < k := by
      have hzero' : k ≠ 0 := hzero
      have hone' : k ≠ 1 := hone
      have htwo' : k ≠ 2 := htwo
      omega
    rw [encode_four howed hk hb hc hd]
    rfl

/-! ## Whole files -/

theorem decodeFrom_encode (offset : Nat) (t : Text) : decodeFrom offset (encode t) = .ok t := by
  induction t generalizing offset with
  | nil => rw [encode_nil, decodeFrom]
  | cons ch t ih =>
      obtain ⟨lead, more, hencode, hfront⟩ := front_encode ch (encode t)
      have hoctets : encode (ch :: t) = lead :: (more ++ encode t) := by
        rw [encode, List.flatMap_cons, hencode]
        rfl
      rw [hoctets, decodeFrom]
      simp only [hfront, Nat.add_sub_cancel, List.drop_left, ih]
      rfl

/-- Each character that is read takes its own octets off the front. -/
theorem encode_of_decodeFrom {offset : Nat} (h : decodeFrom offset octets = .ok t) :
    octets = encode t := by
  fun_induction decodeFrom offset octets generalizing t with
  | case1 =>
      obtain rfl := Except.ok.inj h
      rfl
  | case2 => cases h
  | case3 offset lead rest ch size hfront ih =>
      cases hrest : decodeFrom (offset + size) (rest.drop (size - 1)) with
      | error fault =>
          rw [hrest] at h
          cases h
      | ok t' =>
          rw [hrest] at h
          obtain rfl := Except.ok.inj h
          rw [encode_of_front hfront, ih hrest, encode_cons]
          simp [encode]

/-- **Octets are a text exactly if they are the ones that write it.** -/
theorem decode_eq_ok_iff : decode octets = .ok t ↔ octets = encode t := by
  constructor
  · exact encode_of_decodeFrom
  · rintro rfl
    exact decodeFrom_encode 0 t

theorem encode_injective : Function.Injective encode := by
  intro s t h
  have hs : decode (encode t) = .ok s := decode_eq_ok_iff.2 h.symm
  exact Except.ok.inj (hs.symm.trans (decode_eq_ok_iff.2 rfl))

end Utf8
end PageLoom
