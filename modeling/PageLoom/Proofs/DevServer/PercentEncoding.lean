import Mathlib.Tactic.SplitIfs
import PageLoom.DevServer.Request
import PageLoom.Proofs.Text.Pieces
import PageLoom.Proofs.Text.Search
import PageLoom.Proofs.Text.Trim
import PageLoom.Proofs.Text.Utf8

set_option autoImplicit false

/-! # Percent-encoded paths

A percent-encoding spells the characters of a path by their octets, or as they are where they stand
for nothing else. Whichever of them it spells, and in whichever case, it is decoded to the path
(`decode_of_encodes`), and since nothing in it ends a path, begins a query or separates words, a
request line hands it on whole (`ofLine_getLine`). It grows to three times its length at most, so
what can be a path of a file fits into a line (`isTooLong_getLine`). -/

namespace PageLoom
namespace RequestTarget

variable {a b c : Char} {x y : Nat} {e o t : Text} {os : Octets}

/-! ## Encodings -/

/-- Spellings of octets: for each of them a percent sign and two hexadecimal digits, of either
    case. -/
inductive Escapes : Text → Octets → Prop
  | nil : Escapes [] []
  | octet {a b : Char} {x y : Nat} {e : Text} {os : Octets} (ha : Text.hexValue? a = some x)
      (hb : Text.hexValue? b = some y) (h : Escapes e os) :
      Escapes ('%' :: a :: b :: e) (UInt8.ofNat (x * 16 + y) :: os)

/-- Percent-encodings of a text: letters, digits and slashes, and the marks that stand for nothing
    else, may be left as they are; every other character is spelled by its octets. -/
inductive Encodes : Text → Text → Prop
  | nil : Encodes [] []
  | plain {c : Char} {e t : Text} (hc : isPlain c) (h : Encodes e t) : Encodes (c :: e) (c :: t)
  | escaped {c : Char} {o e t : Text} (ho : Escapes o (Utf8.encode [c])) (h : Encodes e t) :
      Encodes (o ++ e) (c :: t)

theorem hexValue?_hexDigit (n : Nat) : Text.hexValue? (Text.hexDigit n) = some (n % 16) := by
  have hdigits : ∀ m < 16, Text.hexValue? (Nat.digitChar m) = some m := by decide
  exact hdigits (n % 16) (Nat.mod_lt n (by decide))

/-- Every octet has a spelling. -/
theorem escapes_octets (os : Octets) :
    Escapes (os.flatMap fun b => ['%', Text.hexDigit (b.toNat / 16), Text.hexDigit b.toNat])
      os := by
  induction os with
  | nil => exact .nil
  | cons b os ih =>
      have hb : b.toNat < 256 := UInt8.toNat_lt b
      have hvalue : UInt8.ofNat (b.toNat / 16 % 16 * 16 + b.toNat % 16) = b := by
        rw [show b.toNat / 16 % 16 * 16 + b.toNat % 16 = b.toNat by omega, UInt8.ofNat_toNat]
      have hfirst := Escapes.octet (hexValue?_hexDigit (b.toNat / 16))
        (hexValue?_hexDigit b.toNat) ih
      rwa [hvalue] at hfirst

/-- Encoding as little as possible is one way to encode. -/
theorem encodes_encode (t : Text) : Encodes (encode t) t := by
  induction t with
  | nil => exact .nil
  | cons c t ih =>
      rw [encode, List.flatMap_cons]
      by_cases hc : isPlain c
      · rw [if_pos hc]
        exact .plain hc ih
      · rw [if_neg hc]
        exact .escaped (escapes_octets _) ih

/-! ## The characters of an encoding -/

theorem isPlain_iff (c : Char) :
    isPlain c ↔ (48 ≤ c.toNat ∧ c.toNat ≤ 57) ∨ (65 ≤ c.toNat ∧ c.toNat ≤ 90) ∨
      (97 ≤ c.toNat ∧ c.toNat ≤ 122) ∨ c.toNat = 45 ∨ c.toNat = 46 ∨ c.toNat = 95 ∨
        c.toNat = 126 ∨ c.toNat = 47 := by
  simp only [isPlain, Char.isAlphanum, Text.isAlpha_iff, Char.isDigit, Bool.or_eq_true,
    Bool.and_eq_true, decide_eq_true_eq, UInt32.le_iff_toNat_le, ge_iff_le, Char.toNat_val,
    ← Char.toNat_inj, Char.reduceToNat]
  omega

theorem isPlain_of_hexValue? (h : Text.hexValue? c = some x) : isPlain c := by
  have hle : ∀ d d' : Char, d ≤ d' ↔ d.toNat ≤ d'.toNat := fun _ _ => Iff.rfl
  rw [isPlain_iff]
  simp only [Text.hexValue?, hle, Char.reduceToNat] at h
  split_ifs at h <;> omega

/-- The characters of which encodings are made. -/
def isInert (c : Char) : Bool := isPlain c || c = '%'

theorem isInert_of_isPlain (h : isPlain c) : isInert c := by rw [isInert, h, Bool.true_or]

/-- Nothing that ends a path or a word is among them. -/
theorem bounds_of_isInert (h : isInert c) :
    33 ≤ c.toNat ∧ c.toNat ≤ 126 ∧ c ≠ ':' ∧ c ≠ '?' ∧ c ≠ '#' := by
  simp only [isInert, Bool.or_eq_true, isPlain_iff, decide_eq_true_eq] at h
  simp only [ne_eq, ← Char.toNat_inj, Char.reduceToNat] at h ⊢
  omega

theorem Escapes.inert (h : Escapes o os) : ∀ c ∈ o, isInert c := by
  induction h with
  | nil => exact fun _ hc => absurd hc List.not_mem_nil
  | octet ha hb _ ih =>
      simp only [List.forall_mem_cons]
      exact ⟨rfl, isInert_of_isPlain (isPlain_of_hexValue? ha),
        isInert_of_isPlain (isPlain_of_hexValue? hb), ih⟩

theorem Encodes.inert (h : Encodes e t) : ∀ c ∈ e, isInert c := by
  induction h with
  | nil => exact fun _ hc => absurd hc List.not_mem_nil
  | plain hc _ ih => exact List.forall_mem_cons.2 ⟨isInert_of_isPlain hc, ih⟩
  | escaped ho _ ih =>
      intro c hc
      rcases List.mem_append.1 hc with hleft | hright
      · exact ho.inert c hleft
      · exact ih c hright

/-- An encoding begins with a slash only if the path does. -/
theorem Encodes.head?_ne (h : Encodes e t) (ht : t.head? ≠ some '/') : e.head? ≠ some '/' := by
  cases h with
  | nil => simp
  | plain => exact ht
  | @escaped c o e t ho =>
      generalize hos : Utf8.encode [c] = os at ho
      cases ho with
      | nil =>
          -- A character is written by one octet at least.
          obtain ⟨lead, more, hencode, -⟩ := Utf8.front_encode c []
          simp [Utf8.encode, hencode] at hos
      | octet => simp

theorem Encodes.not_slashes (h : Encodes e t) (ht : t.head? ≠ some '/') :
    "//".toList.isPrefixOf ('/' :: e) = false := by
  rw [Bool.eq_false_iff, ne_eq, List.isPrefixOf_iff_prefix]
  intro hpre
  obtain ⟨-, rest, rfl⟩ := List.cons_prefix_cons.1 hpre
  exact h.head?_ne ht rfl

/-! ## Decoding -/

theorem octets_plain (hc : isPlain c) (rest : Text) :
    octets (c :: rest) = Utf8.encode [c] ++ octets rest := by
  have hne : c ≠ '%' := by
    rintro rfl
    exact absurd hc (by decide)
  have hascii : c.val.toNat ≤ 127 := by
    have hplain := (isPlain_iff c).1 hc
    have hval : c.val.toNat = c.toNat := rfl
    omega
  rw [octets]
  · simp only [Utf8.encode, List.flatMap_cons, List.flatMap_nil, String.utf8EncodeChar, hascii,
      if_true]
    rfl
  · exact fun _ _ _ hc => absurd hc hne

theorem octets_escapes (h : Escapes o os) (rest : Text) :
    octets (o ++ rest) = os ++ octets rest := by
  induction h with
  | nil => rfl
  | octet ha hb _ ih =>
      rw [List.cons_append, List.cons_append, List.cons_append, octets, ha, hb]
      simp only [ih, List.cons_append]

/-- The octets of an encoding are those of the text. -/
theorem octets_encodes (h : Encodes e t) : octets e = Utf8.encode t := by
  induction h with
  | nil => rw [octets, Utf8.encode_nil]
  | plain hc _ ih => rw [octets_plain hc, ih, ← Utf8.encode_cons]
  | escaped ho _ ih => rw [octets_escapes ho, ih, ← Utf8.encode_cons]

/-- ASCII text is decoded as a whole. -/
theorem go_of_ascii (h : ∀ c ∈ e, c.toNat < 0x80) (ascii : Text) :
    decode.go ascii e = Utf8.decodeLossy (octets (ascii ++ e)) := by
  induction e generalizing ascii with
  | nil => rw [decode.go, List.append_nil]
  | cons c e ih =>
      obtain ⟨hc, he⟩ := List.forall_mem_cons.1 h
      rw [decode.go, if_pos hc, ih he, List.append_assoc]
      rfl

/-- **Decoding undoes encoding.** -/
theorem decode_of_encodes (h : Encodes e t) : decode e = t := by
  have hascii : ∀ c ∈ e, c.toNat < 0x80 := by
    intro c hc
    have hbounds := bounds_of_isInert (h.inert c hc)
    omega
  rw [decode, go_of_ascii hascii, List.nil_append, octets_encodes h, Utf8.decodeLossy_encode]

/-- Each octet is spelled by three characters. -/
theorem Escapes.length_eq (h : Escapes o os) : o.length = 3 * os.length := by
  induction h with
  | nil => rfl
  | octet _ _ _ ih =>
      simp only [List.length_cons, ih]
      omega

/-- An encoding has at most three characters for an octet. -/
theorem Encodes.length_le (h : Encodes e t) : e.length ≤ 3 * (Utf8.encode t).length := by
  induction h with
  | nil => exact le_rfl
  | @plain c e t hc h ih =>
      have hsize : 1 ≤ (Utf8.encode [c]).length := by
        rw [Utf8.encode, List.flatMap_singleton, String.length_utf8EncodeChar]
        exact c.utf8Size_pos
      rw [Utf8.encode_cons, List.length_append, List.length_cons]
      omega
  | escaped ho h ih =>
      rw [Utf8.encode_cons, List.length_append, List.length_append, ho.length_eq]
      omega

/-! ## Targets -/

theorem splitScheme_of_not_mem (h : ':' ∉ t) : splitScheme t = ([], t) := by
  have hnone : Text.find? ":" t = none := by
    rw [Text.find?_eq_none_iff]
    intro i _ hpre
    exact h (List.mem_of_getElem? ((Text.singleton_prefix_drop_iff ':' t i).1 hpre))
  rw [splitScheme, Text.splitFirst?, hnone]
  rfl

/-- Nothing visible is passed over. -/
theorem kept_of_visible (h : ∀ c ∈ t, 33 ≤ c.toNat) : kept t = t := by
  have hstart : t.dropWhile (fun c => c.toNat ≤ 0x20) = t := by
    cases t with
    | nil => rfl
    | cons c t =>
        have hc := h c List.mem_cons_self
        exact List.dropWhile_cons_of_neg (by rw [decide_eq_true_eq]; omega)
  rw [kept, hstart, List.filter_eq_self]
  intro c hc
  have hbound := h c hc
  simp only [← Char.toNat_inj, Bool.and_eq_true, decide_eq_true_eq, ne_eq, Char.reduceToNat]
  omega

theorem takeWhile_ne_of_not_mem (h : c ∉ t) : t.takeWhile (· ≠ c) = t := by
  rw [List.takeWhile_eq_self_iff]
  intro d hd
  rw [decide_eq_true_eq]
  rintro rfl
  exact h hd

/-- Nothing stands before the path of an encoded target. -/
theorem splitScheme_of_encodes (h : Encodes e t) :
    splitScheme (kept ('/' :: e)) = ([], '/' :: e) := by
  have hbounds : ∀ c ∈ '/' :: e, 33 ≤ c.toNat ∧ c.toNat ≤ 126 ∧ c ≠ ':' ∧ c ≠ '?' ∧ c ≠ '#' :=
    fun c hc => bounds_of_isInert (List.forall_mem_cons.2 ⟨by decide, h.inert⟩ c hc)
  rw [kept_of_visible fun c hc => (hbounds c hc).1,
    splitScheme_of_not_mem fun hmem => (hbounds _ hmem).2.2.1 rfl]

/-- The path of an encoded target is the whole of it. -/
theorem encodedPath_of_encodes (h : Encodes e t) (ht : t.head? ≠ some '/') :
    encodedPath ('/' :: e) = '/' :: e := by
  have hbounds : ∀ c ∈ '/' :: e, 33 ≤ c.toNat ∧ c.toNat ≤ 126 ∧ c ≠ ':' ∧ c ≠ '?' ∧ c ≠ '#' :=
    fun c hc => bounds_of_isInert (List.forall_mem_cons.2 ⟨by decide, h.inert⟩ c hc)
  rw [encodedPath, splitScheme_of_encodes h, pathOfRest]
  simp only [h.not_slashes ht, Bool.false_eq_true, if_false]
  rw [takeWhile_ne_of_not_mem fun hmem => (hbounds _ hmem).2.2.2.2 rfl,
    takeWhile_ne_of_not_mem fun hmem => (hbounds _ hmem).2.2.2.1 rfl]

/-- An encoded target names no host. -/
theorem isSound_of_encodes (h : Encodes e t) (ht : t.head? ≠ some '/') :
    isSound ('/' :: e) = true := by
  simp only [isSound, host?, splitScheme_of_encodes h, h.not_slashes ht, Bool.false_eq_true,
    if_false, Option.all_none]

end RequestTarget

/-! ## Request lines -/

namespace Request

open RequestTarget

/-- The line of a request for a target. -/
def line (method target : Text) : Text :=
  method ++ ' ' :: (target ++ ' ' :: "HTTP/1.1".toList)

/-- The line of a request to read a target. -/
def getLine (target : Text) : Text := "GET ".toList ++ target ++ " HTTP/1.1".toList

theorem getLine_eq (target : Text) : getLine target = line "GET" target := by
  rw [getLine, line, List.append_assoc]
  rfl

theorem length_line (method target : Text) :
    (line method target).length = method.length + target.length + 10 := by
  simp [line]
  omega

/-- Blanks apart, every character of a line stands for itself. -/
theorem map_blank_of_free {t : Text} (h : t.any Text.isBlank = false) :
    t.map (fun c => if Text.isBlank c then ' ' else c) = t := by
  refine (List.map_congr_left fun c hc => ?_).trans (List.map_id t)
  exact if_neg (List.any_eq_false.1 h c hc)

theorem not_mem_of_free {t : Text} (h : t.any Text.isBlank = false) : ' ' ∉ t := by
  intro hmem
  exact List.any_eq_false.1 h ' ' hmem (by decide)

/-- Words without blanks are read back. -/
theorem wordsOf_line {method target : Text} (hmethod : method.any Text.isBlank = false)
    (htarget : target.any Text.isBlank = false) (hsome : method ≠ []) (hne : target ≠ []) :
    wordsOf (line method target) = [method, target, "HTTP/1.1".toList] := by
  have hversion : "HTTP/1.1".toList.any Text.isBlank = false := by decide
  have hspace : (if Text.isBlank ' ' then ' ' else ' ') = ' ' := by decide
  rw [wordsOf, line, List.map_append, List.map_cons, List.map_append, List.map_cons,
    map_blank_of_free hmethod, map_blank_of_free htarget, map_blank_of_free hversion, hspace,
    Text.splitOn_append_cons, Text.splitOn_append_cons,
    Text.splitOn_of_not_mem (not_mem_of_free hmethod),
    Text.splitOn_of_not_mem (not_mem_of_free htarget),
    Text.splitOn_of_not_mem (not_mem_of_free hversion)]
  simp [hsome, hne]

section Line

variable {method target : Text} (hmethod : method.any Text.isBlank = false) (hsome : method ≠ [])
  (htarget : target.any Text.isBlank = false) (hne : target ≠ [])

include hmethod hsome htarget hne

/-- A line of words without blanks is understood. -/
theorem ofLine_line : ofLine (line method target) = .ok ⟨method, foldSlashes target⟩ := by
  have hmajor : major? "HTTP/1.1".toList = some 1 := by decide
  rw [ofLine, wordsOf_line hmethod htarget hsome hne]
  simp only [List.getLastD, List.getLast, hmajor, firstUnspoken, List.length_singleton]
  rfl

/-- What answers it has a head. -/
theorem hasHead_line : hasHead (line method target) = true := by
  rw [hasHead, wordsOf_line hmethod htarget hsome hne]
  change (decide ("HTTP/1.1".toList ≠ "HTTP/0.9".toList) &&
    (major? "HTTP/1.1".toList).any fun n => n < firstUnspoken) = true
  decide

end Line

theorem free_of_encodes {e t : Text} (h : Encodes e t) : ('/' :: e).any Text.isBlank = false := by
  have hinert : ∀ c ∈ '/' :: e, isInert c := List.forall_mem_cons.2 ⟨by decide, h.inert⟩
  rw [List.any_eq_false]
  intro c hc
  have hbounds := bounds_of_isInert (hinert c hc)
  rw [Text.not_isBlank_of_bounds hbounds.1 hbounds.2.1]
  exact Bool.false_ne_true

/-- The request for an encoded path is understood. -/
theorem ofLine_getLine {e t : Text} (h : Encodes e t) (ht : t.head? ≠ some '/') :
    ofLine (getLine ('/' :: e)) = .ok ⟨"GET".toList, '/' :: e⟩ := by
  have hfold : foldSlashes ('/' :: e) = '/' :: e := by
    rw [foldSlashes, h.not_slashes ht]
    rfl
  rw [getLine_eq, ofLine_line (by decide) (by decide) (free_of_encodes h) (List.cons_ne_nil _ _),
    hfold]

theorem hasHead_getLine {e t : Text} (h : Encodes e t) : hasHead (getLine ('/' :: e)) = true := by
  rw [getLine_eq]
  exact hasHead_line (by decide) (by decide) (free_of_encodes h) (List.cons_ne_nil _ _)

/-- The line of a request for a path that the system knows is read to its end. -/
theorem isTooLong_getLine {e t : Text} (h : Encodes e t)
    (hlength : (Utf8.encode t).length ≤ FileTree.longestPath + 1) :
    isTooLong (getLine ('/' :: e)) = false := by
  have hle := h.length_le
  have hmethod : "GET".toList.length = 3 := rfl
  rw [FileTree.longestPath] at hlength
  rw [isTooLong, getLine_eq, length_line, List.length_cons, decide_eq_false_iff_not, longestLine]
  omega

end Request
end PageLoom
