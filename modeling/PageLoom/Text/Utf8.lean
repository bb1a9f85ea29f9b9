import PageLoom.Text.Basic

set_option autoImplicit false

/-! # Texts as octets

Writing a text as UTF-8 and reading it back. Reading either gives the text or locates the first
run of octets that cannot stand in a well-formed sequence: the longest beginning of a sequence
that an octet, or the end of the input, then rules out. -/

namespace PageLoom

/-- The content of a file. -/
abbrev Octets := List UInt8

namespace Utf8

/-- Why a run of octets was rejected. -/
inductive Reason where
  | invalidStart
  | invalidContinuation
  | unexpectedEnd
  deriving DecidableEq, Repr

/-- The first rejected run: its offset, its first octet and its length. -/
structure Fault where
  offset : Nat
  first : UInt8
  length : Nat
  reason : Reason
  deriving DecidableEq, Repr

/-- Two lower-case hexadecimal digits. -/
def hexOctet (b : UInt8) : Text := [Text.hexDigit (b.toNat / 16), Text.hexDigit b.toNat]

/-- The wording of each reason. -/
def Reason.message : Reason → Text
  | .invalidStart => "invalid start byte"
  | .invalidContinuation => "invalid continuation byte"
  | .unexpectedEnd => "unexpected end of data"

/-- One rejected octet is shown; of a longer run the first and last offset are. -/
def Fault.message (f : Fault) : Text :=
  "'utf-8' codec can't decode byte" ++
    (if f.length ≤ 1 then " 0x" ++ hexOctet f.first ++ " in position " ++ Text.ofNat f.offset
     else "s in position " ++ Text.ofNat f.offset ++ "-" ++
       Text.ofNat (f.offset + f.length - 1)) ++
    ": " ++ f.reason.message

/-- Octets `80` to `BF` continue a sequence. -/
def isTail (b : UInt8) : Bool := 0x80 ≤ b && b ≤ 0xBF

/-- The octets that may follow a lead octet: narrowed after `E0`, `ED`, `F0` and `F4`, so that no
    overlong form, surrogate or number beyond the last code point is written. -/
def secondRange (lead : UInt8) : UInt8 × UInt8 :=
  if lead = 0xE0 then (0xA0, 0xBF)
  else if lead = 0xED then (0x80, 0x9F)
  else if lead = 0xF0 then (0x90, 0xBF)
  else if lead = 0xF4 then (0x80, 0x8F)
  else (0x80, 0xBF)

/-- Whether `b` may follow the lead octet. -/
def isSecond (lead b : UInt8) : Bool := (secondRange lead).1 ≤ b && b ≤ (secondRange lead).2

/-- How many octets follow a lead octet; none for an octet that starts nothing. -/
def owed? (lead : UInt8) : Option Nat :=
  if lead < 0x80 then some 0
  else if 0xC2 ≤ lead && lead ≤ 0xDF then some 1
  else if 0xE0 ≤ lead && lead ≤ 0xEF then some 2
  else if 0xF0 ≤ lead && lead ≤ 0xF4 then some 3
  else none

/-- What stands at the front of some octets. -/
inductive Front where
  /-- A character and the number of octets that write it. -/
  | character (c : Char) (size : Nat)
  /-- A rejected run and its length. -/
  | rejected (reason : Reason) (length : Nat)

/-- The low six bits of a continuing octet. -/
def payload (b : UInt8) : Nat := b.toNat % 64

/-- Reads the sequence that a lead octet starts. -/
def front (lead : UInt8) (rest : Octets) : Front :=
  match owed? lead, rest with
  | none, _ => .rejected .invalidStart 1
  | some 0, _ => .character (Char.ofNat lead.toNat) 1
  | some _, [] => .rejected .unexpectedEnd 1
  | some 1, b :: _ =>
      if isSecond lead b then
        .character (Char.ofNat (lead.toNat % 32 * 64 + payload b)) 2
      else .rejected .invalidContinuation 1
  | some 2, [b] =>
      if isSecond lead b then .rejected .unexpectedEnd 2 else .rejected .invalidContinuation 1
  | some 2, b :: c :: _ =>
      if ¬ isSecond lead b then .rejected .invalidContinuation 1
      else if ¬ isTail c then .rejected .invalidContinuation 2
      else .character (Char.ofNat (lead.toNat % 16 * 4096 + payload b * 64 + payload c)) 3
  | some _, [b] =>
      if isSecond lead b then .rejected .unexpectedEnd 2 else .rejected .invalidContinuation 1
  | some _, [b, c] =>
      if ¬ isSecond lead b then .rejected .invalidContinuation 1
      else if ¬ isTail c then .rejected .invalidContinuation 2
      else .rejected .unexpectedEnd 3
  | some _, b :: c :: d :: _ =>
      if ¬ isSecond lead b then .rejected .invalidContinuation 1
      else if ¬ isTail c then .rejected .invalidContinuation 2
      else if ¬ isTail d then .rejected .invalidContinuation 3
      else .character
        (Char.ofNat (lead.toNat % 8 * 262144 + payload b * 4096 + payload c * 64 + payload d)) 4

/-- Reads octets that start at `offset` of a file. -/
def decodeFrom (offset : Nat) (octets : Octets) : Except Fault Text :=
  match octets with
  | [] => .ok []
  | lead :: rest =>
      match front lead rest with
      | .rejected reason length => .error ⟨offset, lead, length, reason⟩
      | .character c size => (decodeFrom (offset + size) (rest.drop (size - 1))).map (c :: ·)
  termination_by octets.length
  decreasing_by simp only [List.length_cons, List.length_drop]; omega

/-- The text that the octets write. -/
def decode (octets : Octets) : Except Fault Text := decodeFrom 0 octets

/-- The text that the octets write, with U+FFFD for each rejected run. -/
def decodeLossy (octets : Octets) : Text :=
  match octets with
  | [] => []
  | lead :: rest =>
      match front lead rest with
      | .rejected _ length => '\uFFFD' :: decodeLossy (rest.drop (length - 1))
      | .character c size => c :: decodeLossy (rest.drop (size - 1))
  termination_by octets.length
  decreasing_by all_goals simp only [List.length_cons, List.length_drop]; omega

/-- The octets that write a text. -/
def encode (t : Text) : Octets := t.flatMap String.utf8EncodeChar

@[simp]
theorem encode_nil : encode [] = [] := rfl

theorem encode_append (s t : Text) : encode (s ++ t) = encode s ++ encode t :=
  List.flatMap_append

end Utf8
end PageLoom
