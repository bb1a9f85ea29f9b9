import Mathlib.Tactic.SplitIfs
import PageLoom.Text.Utf8

set_option autoImplicit false

/-! # Reading what was written

The octets that write a character stand at the front of whatever follows them and are read as that
character (`front_encode`), so that a text is read back from its octets (`decodeLossy_encode`). -/

namespace PageLoom
namespace Utf8

/-! ## Classes of octets by number -/

theorem isTail_iff (b : UInt8) : isTail b ↔ 128 ≤ b.toNat ∧ b.toNat ≤ 191 := by
  simp [isTail, UInt8.le_iff_toNat_le]

theorem isSecond_iff (lead b : UInt8) :
    isSecond lead b ↔ 128 ≤ b.toNat ∧ b.toNat ≤ 191 ∧ (lead.toNat = 224 → 160 ≤ b.toNat) ∧
      (lead.toNat = 237 → b.toNat ≤ 159) ∧ (lead.toNat = 240 → 144 ≤ b.toNat) ∧
        (lead.toNat = 244 → b.toNat ≤ 143) := by
  unfold isSecond secondRange
  simp only [← UInt8.toNat_inj, Bool.and_eq_true, decide_eq_true_eq, UInt8.le_iff_toNat_le,
    UInt8.reduceToNat]
  split_ifs <;> simp only [UInt8.reduceToNat] <;> omega

theorem owed?_eq (lead : UInt8) :
    owed? lead =
      if lead.toNat < 128 then some 0
      else if 194 ≤ lead.toNat ∧ lead.toNat ≤ 223 then some 1
      else if 224 ≤ lead.toNat ∧ lead.toNat ≤ 239 then some 2
      else if 240 ≤ lead.toNat ∧ lead.toNat ≤ 244 then some 3
      else none := by
  simp [owed?, UInt8.lt_iff_toNat_lt, UInt8.le_iff_toNat_le]

/-! ## Sequences -/

variable {lead b c d : UInt8} {rest : Octets}

theorem front_one (hlead : lead.toNat < 128) (rest : Octets) :
    front lead rest = .character (Char.ofNat lead.toNat) 1 := by
  have howed : owed? lead = some 0 := by rw [owed?_eq, if_pos hlead]
  simp only [front, howed]

theorem front_two (hlow : 194 ≤ lead.toNat) (hhigh : lead.toNat ≤ 223) (hb : isSecond lead b)
    (rest : Octets) :
    front lead (b :: rest) = .character (Char.ofNat (lead.toNat % 32 * 64 + payload b)) 2 := by
  have howed : owed? lead = some 1 := by
    rw [owed?_eq, if_neg (by omega), if_pos ⟨hlow, hhigh⟩]
  simp only [front, howed, hb, if_true]

theorem front_three (hlow : 224 ≤ lead.toNat) (hhigh : lead.toNat ≤ 239) (hb : isSecond lead b)
    (hc : isTail c) (rest : Octets) :
    front lead (b :: c :: rest) =
      .character (Char.ofNat (lead.toNat % 16 * 4096 + payload b * 64 + payload c)) 3 := by
  have howed : owed? lead = some 2 := by
    rw [owed?_eq, if_neg (by omega), if_neg (by omega), if_pos ⟨hlow, hhigh⟩]
  simp only [front, howed, hb, hc, not_true_eq_false, if_false]

theorem front_four (hlow : 240 ≤ lead.toNat) (hhigh : lead.toNat ≤ 244) (hb : isSecond lead b)
    (hc : isTail c) (hd : isTail d) (rest : Octets) :
    front lead (b :: c :: d :: rest) =
      .character (Char.ofNat
        (lead.toNat % 8 * 262144 + payload b * 4096 + payload c * 64 + payload d)) 4 := by
  have howed : owed? lead = some 3 := by
    rw [owed?_eq, if_neg (by omega), if_neg (by omega), if_neg (by omega), if_pos ⟨hlow, hhigh⟩]
  simp only [front, howed, hb, hc, hd, not_true_eq_false, if_false]

/-! ## Characters -/

/-- The octet of a number that is one. -/
theorem toNat_ofNat {n : Nat} (h : n < 256) : (UInt8.ofNat n).toNat = n := by
  simp [Nat.mod_eq_of_lt h]

section Number

variable {n : Nat}

theorem front_twoOctets (hlow : 127 < n) (hhigh : n ≤ 2047) (rest : Octets) :
    front (UInt8.ofNat (n / 64 % 32 + 192)) (UInt8.ofNat (n % 64 + 128) :: rest) =
      .character (Char.ofNat n) 2 := by
  have hlead := toNat_ofNat (n := n / 64 % 32 + 192) (by omega)
  have hb := toNat_ofNat (n := n % 64 + 128) (by omega)
  have hsecond : isSecond (UInt8.ofNat (n / 64 % 32 + 192)) (UInt8.ofNat (n % 64 + 128)) := by
    rw [isSecond_iff, hlead, hb]
    omega
  rw [front_two (by omega) (by omega) hsecond, payload, hlead, hb]
  congr 2
  omega

/-- Behind `ED` the second octet stays below the surrogates, of which no character is one. -/
theorem front_threeOctets (hlow : 2047 < n) (hhigh : n ≤ 65535) (hvalid : n < 0xD800 ∨ 0xDFFF < n)
    (rest : Octets) :
    front (UInt8.ofNat (n / 4096 % 16 + 224))
        (UInt8.ofNat (n / 64 % 64 + 128) :: UInt8.ofNat (n % 64 + 128) :: rest) =
      .character (Char.ofNat n) 3 := by
  have hlead := toNat_ofNat (n := n / 4096 % 16 + 224) (by omega)
  have hb := toNat_ofNat (n := n / 64 % 64 + 128) (by omega)
  have hc := toNat_ofNat (n := n % 64 + 128) (by omega)
  have hsecond : isSecond (UInt8.ofNat (n / 4096 % 16 + 224))
      (UInt8.ofNat (n / 64 % 64 + 128)) := by
    rw [isSecond_iff, hlead, hb]
    omega
  have htail : isTail (UInt8.ofNat (n % 64 + 128)) := by
    rw [isTail_iff, hc]
    omega
  rw [front_three (by omega) (by omega) hsecond htail, payload, payload, hlead, hb, hc]
  congr 2
  omega

theorem front_fourOctets (hlow : 65535 < n) (hhigh : n < 0x110000) (rest : Octets) :
    front (UInt8.ofNat (n / 262144 % 8 + 240))
        (UInt8.ofNat (n / 4096 % 64 + 128) :: UInt8.ofNat (n / 64 % 64 + 128) ::
          UInt8.ofNat (n % 64 + 128) :: rest) =
      .character (Char.ofNat n) 4 := by
  have hlead := toNat_ofNat (n := n / 262144 % 8 + 240) (by omega)
  have hb := toNat_ofNat (n := n / 4096 % 64 + 128) (by omega)
  have hc := toNat_ofNat (n := n / 64 % 64 + 128) (by omega)
  have hd := toNat_ofNat (n := n % 64 + 128) (by omega)
  have hsecond : isSecond (UInt8.ofNat (n / 262144 % 8 + 240))
      (UInt8.ofNat (n / 4096 % 64 + 128)) := by
    rw [isSecond_iff, hlead, hb]
    omega
  have htail : isTail (UInt8.ofNat (n / 64 % 64 + 128)) := by
    rw [isTail_iff, hc]
    omega
  have htail' : isTail (UInt8.ofNat (n % 64 + 128)) := by
    rw [isTail_iff, hd]
    omega
  rw [front_four (by omega) (by omega) hsecond htail htail', payload, payload, payload, hlead, hb,
    hc, hd]
  congr 2
  omega

end Number

/-- **The octets of a character are read as the character**, whatever follows them. -/
theorem front_encode (ch : Char) (rest : Octets) :
    ∃ lead more, String.utf8EncodeChar ch = lead :: more ∧
      front lead (more ++ rest) = .character ch (more.length + 1) := by
  have hvalid : ch.toNat < 0xD800 ∨ 0xDFFF < ch.toNat ∧ ch.toNat < 0x110000 := ch.valid
  have hval : ch.val.toNat = ch.toNat := rfl
  have hself : Char.ofNat ch.toNat = ch := Char.ofNat_toNat ch
  unfold String.utf8EncodeChar
  simp only [hval]
  split_ifs with hone htwo hthree
  · refine ⟨_, [], rfl, ?_⟩
    rw [front_one (by rw [toNat_ofNat (by omega)]; omega), toNat_ofNat (by omega), hself]
    rfl
  · refine ⟨_, [_], rfl, ?_⟩
    rw [List.cons_append, front_twoOctets (by omega) htwo, hself]
    rfl
  · refine ⟨_, [_, _], rfl, ?_⟩
    rw [List.cons_append, List.cons_append, front_threeOctets (by omega) hthree (by omega), hself]
    rfl
  · refine ⟨_, [_, _, _], rfl, ?_⟩
    rw [List.cons_append, List.cons_append, List.cons_append,
      front_fourOctets (by omega) (by omega), hself]
    rfl

/-! ## Texts -/

theorem encode_cons (ch : Char) (t : Text) : encode (ch :: t) = encode [ch] ++ encode t :=
  encode_append [ch] t

theorem decodeLossy_of_front {ch : Char} {size : Nat} (h : front lead rest = .character ch size) :
    decodeLossy (lead :: rest) = ch :: decodeLossy (rest.drop (size - 1)) := by
  rw [decodeLossy]
  split
  next hrejected => cases h.symm.trans hrejected
  next hcharacter =>
    obtain ⟨rfl, rfl⟩ := Front.character.inj (h.symm.trans hcharacter)
    rfl

/-- **A text is read back from its octets.** -/
theorem decodeLossy_encode (t : Text) : decodeLossy (encode t) = t := by
  induction t with
  | nil => rw [encode_nil, decodeLossy]
  | cons ch t ih =>
      obtain ⟨lead, more, hencode, hfront⟩ := front_encode ch (encode t)
      have hoctets : encode (ch :: t) = lead :: (more ++ encode t) := by
        rw [encode, List.flatMap_cons, hencode]
        rfl
      rw [hoctets, decodeLossy_of_front hfront, Nat.add_sub_cancel, List.drop_left, ih]

end Utf8
end PageLoom
