set_option autoImplicit false

/-! # Text

A text is the list of its characters, so every offset and length in this library counts
characters. This file holds the alphabet-independent operations (search, replacement, splitting,
slices) and the two character classes every format here shares: blanks and ASCII letters.

A string literal stands for its list of characters wherever a text is expected. -/

namespace PageLoom

/-- A text, as the list of its characters. -/
abbrev Text := List Char

instance : Coe String Text := ⟨String.toList⟩

namespace Text

/-! ## Sets of characters -/

/-- Membership in a list of closed ranges of code points. -/
def inRanges (ranges : List (Nat × Nat)) (c : Char) : Bool :=
  ranges.any fun r => r.1 ≤ c.toNat && c.toNat ≤ r.2

/-- Binary search for the range that could hold `n`, among the ranges at `low ≤ · < high`. -/
def searchRanges (ranges : Array (Nat × Nat)) (n : Nat) : Nat → Nat → Nat → Bool
  | 0, _, _ => false
  | fuel + 1, low, high =>
      if low < high then
        let middle := (low + high) / 2
        match ranges[middle]? with
        | none => false
        | some (first, last) =>
            if n < first then searchRanges ranges n fuel low middle
            else if last < n then searchRanges ranges n fuel (middle + 1) high
            else true
      else false

/-- Whether a table of ascending closed ranges holds the character. Each step halves the ranges
    left, so that the logarithm of their number bounds the search. -/
def inTable (ranges : Array (Nat × Nat)) (c : Char) : Bool :=
  searchRanges ranges c.toNat (Nat.log2 ranges.size + 1) 0 ranges.size

/-! ## Blanks -/

/-- Closed ranges of the blank code points, ascending and apart: the separators and the control
    characters that separate. -/
def blankRanges : List (Nat × Nat) :=
  [(0x09, 0x0D), (0x1C, 0x20), (0x85, 0x85), (0xA0, 0xA0), (0x1680, 0x1680), (0x2000, 0x200A),
   (0x2028, 0x2029), (0x202F, 0x202F), (0x205F, 0x205F), (0x3000, 0x3000)]

/-- Blank characters are the ones trimming removes. -/
def isBlank (c : Char) : Bool := inRanges blankRanges c

/-- The text without its leading blanks. -/
def trimStart (t : Text) : Text := t.dropWhile isBlank

/-- The text without its trailing characters that satisfy `p`. -/
def dropEndWhile (p : Char → Bool) (t : Text) : Text := (t.reverse.dropWhile p).reverse

/-- The text without its trailing blanks. -/
def trimEnd (t : Text) : Text := dropEndWhile isBlank t

/-- The text without the blanks at its ends. -/
def trim (t : Text) : Text := trimEnd (trimStart t)

/-- The blanks that may stand around a number: all but the control characters that separate. -/
def isPadding (c : Char) : Bool := isBlank c && !(0x1C ≤ c.toNat && c.toNat ≤ 0x1F)

/-- The text without the padding at its ends. -/
def trimPadding (t : Text) : Text := dropEndWhile isPadding (t.dropWhile isPadding)

theorem trimStart_append_dropped (t : Text) : t.takeWhile isBlank ++ trimStart t = t :=
  List.takeWhile_append_dropWhile

/-! ## Slices and search -/

/-- The characters at offsets `i ≤ · < j`. -/
def slice (t : Text) (i j : Nat) : Text := (t.take j).drop i

/-- Offset of the first occurrence of `needle`. -/
def find? (needle : Text) : Text → Option Nat
  | [] => if needle.isEmpty then some 0 else none
  | c :: rest =>
      if needle.isPrefixOf (c :: rest) then some 0
      else (find? needle rest).map (· + 1)

/-- Offset of the first occurrence of `needle` at or after `start`. -/
def findFrom? (needle : Text) (t : Text) (start : Nat) : Option Nat :=
  (find? needle (t.drop start)).map (· + start)

/-- Whether `needle` occurs in the text. -/
def occursIn (needle t : Text) : Bool := (find? needle t).isSome

/-- The text before and after the first occurrence of `mark`. -/
def splitFirst? (mark : Text) (t : Text) : Option (Text × Text) :=
  (find? mark t).map fun i => (t.take i, t.drop (i + mark.length))

/-- The text before and after the last character equal to `c`. -/
def splitLast? (c : Char) (t : Text) : Option (Text × Text) :=
  let back := t.reverse
  let after := back.takeWhile (· ≠ c)
  match back.drop after.length with
  | [] => none
  | _ :: before => some (before.reverse, after.reverse)

/-- The pieces of the text between occurrences of one character: always at least one piece. -/
def splitOn (c : Char) : Text → List Text
  | [] => [[]]
  | d :: rest =>
      if d = c then [] :: splitOn c rest
      else match splitOn c rest with
        | [] => [[d]]
        | piece :: pieces => (d :: piece) :: pieces

/-- The pieces with `separator` between neighbours. -/
def join (separator : Text) (pieces : List Text) : Text := List.intercalate separator pieces

/-- Every occurrence of `needle`, from the left and without overlap, replaced. -/
def replaceAll (needle replacement : Text) (t : Text) : Text :=
  go t.length t
where
  go : Nat → Text → Text
    | 0, rest => rest
    | _, [] => []
    | fuel + 1, c :: rest =>
        if ¬ needle.isEmpty ∧ needle.isPrefixOf (c :: rest) then
          replacement ++ go fuel ((c :: rest).drop needle.length)
        else c :: go fuel rest

/-- The text with `n` copies of itself one after the other. -/
def times (n : Nat) (t : Text) : Text := (List.replicate n t).flatten

/-- Padding on the left up to a width. -/
def padLeft (width : Nat) (fill : Char) (t : Text) : Text :=
  List.replicate (width - t.length) fill ++ t

/-! ## ASCII letters -/

/-- ASCII letters to lower case; every other character is kept. -/
def asciiLower (t : Text) : Text := t.map Char.toLower

/-- Decimal text of a natural number. -/
def ofNat (n : Nat) : Text := Nat.toDigits 10 n

/-- Decimal text of an integer, with a minus sign when negative. -/
def ofInt : Int → Text
  | .ofNat n => ofNat n
  | .negSucc n => '-' :: ofNat (n + 1)

/-- The hexadecimal digit for a value below sixteen, lower case. -/
def hexDigit (n : Nat) : Char := Nat.digitChar (n % 16)

/-- The value of a hexadecimal digit, either case. -/
def hexValue? (c : Char) : Option Nat :=
  if '0' ≤ c ∧ c ≤ '9' then some (c.toNat - '0'.toNat)
  else if 'a' ≤ c ∧ c ≤ 'f' then some (c.toNat - 'a'.toNat + 10)
  else if 'A' ≤ c ∧ c ≤ 'F' then some (c.toNat - 'A'.toNat + 10)
  else none

/-- A text of ASCII digits as a natural number; `0` for the empty text. -/
def digitsValue (t : Text) : Nat := t.foldl (fun n c => 10 * n + (c.toNat - '0'.toNat)) 0

/-- The code point order of texts, in which a proper beginning comes first. -/
def le : Text → Text → Bool
  | [], _ => true
  | _ :: _, [] => false
  | a :: s, b :: t => if a = b then le s t else a.toNat < b.toNat

/-- Texts in code point order. -/
def sort (ts : List Text) : List Text := ts.mergeSort le

/-- The lines of a text; a line feed ends its line and belongs to no line. -/
def lines (t : Text) : List Text :=
  let pieces := splitOn '\n' t
  if pieces.getLast? = some [] then pieces.dropLast else pieces

/-- Every line end, be it CR LF, CR or LF, as LF. -/
def unifyLineEnds : Text → Text
  | [] => []
  | '\r' :: '\n' :: rest => '\n' :: unifyLineEnds rest
  | '\r' :: rest => '\n' :: unifyLineEnds rest
  | c :: rest => c :: unifyLineEnds rest

/-- The five characters with a meaning in markup, written so that they stand for themselves. -/
def escapeMarkup (t : Text) : Text :=
  t.flatMap fun c => match c with
    | '&' => "&amp;".toList
    | '<' => "&lt;".toList
    | '>' => "&gt;".toList
    | '"' => "&quot;".toList
    | '\'' => "&#x27;".toList
    | c => [c]

end Text
end PageLoom
