import PageLoom.Decimal.Reading
import PageLoom.Text.Case
import PageLoom.Yaml.Node

set_option autoImplicit false

/-! # Values of YAML

What scalars stand for. A plain scalar is a truth value, a number, a date or nothing when it is
written as one, and a text otherwise; any other scalar is a text. Integers may be written in four
bases or in places of sixty; floats need a point, and their exponents a sign. -/

namespace PageLoom
namespace Yaml

/-- A value. -/
inductive Value where
  | null
  | bool (b : Bool)
  | int (n : Int)
  | float (x : Float)
  | date
  | text (t : Text)
  | octets (content : Octets)
  | list (items : List Value)
  | dict (entries : List (Value × Value))
  deriving Inhabited

namespace Scalar

/-! ## Numerals -/

/-- Digits of a base, underscores among them. -/
def isRun (base : Nat) (t : Text) : Bool :=
  !t.isEmpty && t.all fun c => c = '_' || (Text.hexValue? c).any (· < base)

/-- The value of such digits. -/
def runValue (base : Nat) (t : Text) : Nat :=
  (t.filter (· ≠ '_')).foldl (fun n c => base * n + (Text.hexValue? c).getD 0) 0

/-- A place of sixty. -/
def isSixtieth : Text → Bool
  | [c] => c.isDigit
  | [c, d] => '0' ≤ c && c ≤ '5' && d.isDigit
  | _ => false

/-- A digit other than zero, and digits and underscores behind it. -/
def isLeadingRun : Text → Bool
  | c :: rest => '1' ≤ c && c ≤ '9' && rest.all fun c => c.isDigit || c = '_'
  | [] => false

/-- An integer without its sign. -/
def natural? (t : Text) : Option Nat :=
  match t with
  | '0' :: 'b' :: rest => if isRun 2 rest then some (runValue 2 rest) else none
  | '0' :: 'x' :: rest => if isRun 16 rest then some (runValue 16 rest) else none
  | ['0'] => some 0
  | '0' :: rest => if isRun 8 rest then some (runValue 8 rest) else none
  | t =>
      if isLeadingRun t then some (runValue 10 t)
      else match Text.splitOn ':' t with
        | first :: second :: more =>
            if isLeadingRun first && (second :: more).all isSixtieth then
              some ((first :: second :: more).foldl (fun n p => 60 * n + runValue 10 p) 0)
            else none
        | _ => none

/-- The fault of digits that are no numeral of a base. -/
def noNumeral (base : Nat) (t : Text) : Fault :=
  .outOfRange ("invalid literal for int() with base " ++ Text.ofNat base ++ ": " ++
    PageValue.declareText t)

/-- Why a well-written integer has no value: a mark of a base with no digit behind it, or too many
    decimal digits. -/
def intFault? (t : Text) : Option Fault :=
  match (Decimal.takeSign (t.filter (· ≠ '_'))).2 with
  | ['0', 'b'] => some (noNumeral 2 [])
  | ['0', 'x'] => some (noNumeral 16 [])
  | '0' :: _ => none
  | body =>
      ((Text.splitOn ':' body).find? fun part => mostDigits < part.length).map fun part =>
        tooLong part.length

/-- An integer. -/
def int? (t : Text) : Option Int :=
  let (negative, t) := Decimal.takeSign t
  (natural? t).map (Decimal.signed negative)

/-- An exponent with its sign, or nothing. -/
def exponent? (t : Text) : Option Int :=
  match t with
  | [] => some 0
  | e :: sign :: digits =>
      if (e = 'e' ∨ e = 'E') ∧ (sign = '-' ∨ sign = '+') ∧ ¬ digits.isEmpty ∧
          digits.all Char.isDigit then
        some (Decimal.signed (sign = '-') (Text.digitsValue digits))
      else none
  | _ => none

/-- The most places of sixty that a float can count. -/
def mostPlaces : Nat := 174

/-- Why a well-written float has no value. -/
def floatFault? (t : Text) : Option Fault :=
  if mostPlaces < (Text.splitOn ':' t).length then some .tooManyPlaces else none

/-- Digits and underscores that begin with a digit. -/
def isDigitRun : Text → Bool
  | c :: rest => c.isDigit && rest.all fun c => c.isDigit || c = '_'
  | [] => false

/-- The float of whole digits, fraction digits and an exponent. -/
def floatOf (whole fraction : Text) (exponent : Int) : Float :=
  let fraction := fraction.filter (· ≠ '_')
  let digits := whole.filter (· ≠ '_') ++ fraction
  Decimal.toFloat (Text.digitsValue digits) (exponent - fraction.length)

/-- A float without its sign; a fraction alone takes none. -/
def magnitude? (signed : Bool) (t : Text) : Option Float := do
  let (whole, rest) ← Text.splitFirst? ['.'] t
  let fraction := rest.takeWhile fun c => c.isDigit || c = '_'
  let after := rest.drop fraction.length
  if whole.isEmpty then
    if signed ∨ ¬ isDigitRun fraction then none
    return floatOf [] fraction (← exponent? after)
  else if isDigitRun whole then return floatOf whole fraction (← exponent? after)
  else
    match Text.splitOn ':' whole with
    | first :: second :: more =>
        if isDigitRun first && (second :: more).all isSixtieth && after.isEmpty then
          let seconds := (first :: second :: more).foldl (fun n p => 60 * n + runValue 10 p) 0
          return floatOf (Text.ofNat seconds) fraction 0
        else none
    | _ => none

/-- The plain scalars for infinity, without a sign. -/
def infiniteTexts : List Text := [".inf", ".Inf", ".INF"]

/-- The plain scalars for no number. -/
def nanTexts : List Text := [".nan", ".NaN", ".NAN"]

/-- A float. -/
def float? (t : Text) : Option Float :=
  let (negative, body) := Decimal.takeSign t
  let isSigned := body.length ≠ t.length
  let sign (x : Float) : Float := if negative then -x else x
  if infiniteTexts.contains body then some (sign (1.0 / 0.0))
  else if nanTexts.contains t then some (0.0 / 0.0)
  else (magnitude? isSigned body).map sign

/-! ## Dates -/

/-- Days of a month. -/
def daysIn (year month : Nat) : Nat :=
  if month = 2 then
    if year % 4 = 0 ∧ (year % 100 ≠ 0 ∨ year % 400 = 0) then 29 else 28
  else if month = 4 ∨ month = 6 ∨ month = 9 ∨ month = 11 then 30
  else 31

/-- Why a date does not exist. -/
def dateFault? (year month day : Nat) : Option Text :=
  if year = 0 then some "year 0 is out of range"
  else if month = 0 ∨ 12 < month then some "month must be in 1..12"
  else if day = 0 ∨ daysIn year month < day then some "day is out of range for month"
  else none

/-- Why a time of day does not exist. -/
def timeFault? (hour minute second : Nat) : Option Text :=
  if 23 < hour then some "hour must be in 0..23"
  else if 59 < minute then some "minute must be in 0..59"
  else if 59 < second then some "second must be in 0..59"
  else none

/-- Between `least` and `most` digits at the front, and what follows them. -/
def takeDigits? (least most : Nat) (t : Text) : Option (Nat × Text) :=
  let digits := (t.take most).takeWhile Char.isDigit
  if digits.length < least then none
  else some (Text.digitsValue digits, t.drop digits.length)

/-- What follows an expected character. -/
def expect? (c : Char) : Text → Option Text
  | d :: rest => if d = c then some rest else none
  | [] => none

/-- A part of a span of time, unless it is zero. -/
def spanPart (name : Text) (n : Int) : List Text :=
  if n = 0 then [] else [name ++ '=' :: Text.ofInt n]

/-- The fault of an offset of a day or more, in seconds. -/
def offsetFault? (seconds : Int) : Option Text :=
  if seconds.natAbs < 86400 then none
  else some ("offset must be a timedelta strictly between -timedelta(hours=24) and " ++
    "timedelta(hours=24), not datetime.timedelta(" ++
    Text.join ", " (spanPart "days" (seconds.fdiv 86400) ++ spanPart "seconds" (seconds.fmod 86400))
    ++ ").")

/-- The place of a time: none, UTC, or an offset in hours and minutes, with the fault of one that
    does not exist. -/
def zone? (t : Text) : Option (Option Text) :=
  match t.dropWhile fun c => c = ' ' || c = '\t' with
  | [] => if t.isEmpty then some none else none
  | ['Z'] => some none
  | s :: rest =>
      if s ≠ '-' ∧ s ≠ '+' then none
      else do
        let (hours, rest) ← takeDigits? 1 2 rest
        let minutes ← match rest with
          | [] => some 0
          | ':' :: rest => match takeDigits? 2 2 rest with
              | some (n, []) => some n
              | _ => none
          | _ => none
        some (offsetFault? (Decimal.signed (s = '-') (hours * 3600 + minutes * 60)))

/-- A date and a time, with the fault of one that does not exist. -/
def moment? (t : Text) : Option (Option Text) := do
  let (year, rest) ← takeDigits? 4 4 t
  let (month, rest) ← takeDigits? 1 2 (← expect? '-' rest)
  let (day, rest) ← takeDigits? 1 2 (← expect? '-' rest)
  let rest ← match rest with
    | c :: more =>
        if c = 'T' ∨ c = 't' then some more
        else
          let more' := rest.dropWhile fun c => c = ' ' || c = '\t'
          if more'.length = rest.length then none else some more'
    | [] => none
  let (hour, rest) ← takeDigits? 1 2 rest
  let (minute, rest) ← takeDigits? 2 2 (← expect? ':' rest)
  let (second, rest) ← takeDigits? 2 2 (← expect? ':' rest)
  let rest := match rest with
    | '.' :: more => more.dropWhile Char.isDigit
    | more => more
  let zoneFault ← zone? rest
  some (zoneFault.or ((dateFault? year month day).or (timeFault? hour minute second)))

/-- A date, with the fault of one that does not exist. Month and day have `least` digits or
    two. -/
def day? (least : Nat) (t : Text) : Option (Option Text) := do
  let (year, rest) ← takeDigits? 4 4 t
  let (month, rest) ← takeDigits? least 2 (← expect? '-' rest)
  let (day, rest) ← takeDigits? least 2 (← expect? '-' rest)
  if rest.isEmpty then some (dateFault? year month day) else none

/-- The value of a date, or its fault. -/
def dated : Option Text → Except Fault Value
  | none => .ok .date
  | some message => .error (.outOfRange message)

/-! ## Plain scalars -/

/-- The plain scalars for nothing. -/
def nullTexts : List Text := ["", "~", "null", "Null", "NULL"]

/-- The plain scalars for true. -/
def trueTexts : List Text :=
  ["yes", "Yes", "YES", "true", "True", "TRUE", "on", "On", "ON"]

/-- The plain scalars for false. -/
def falseTexts : List Text :=
  ["no", "No", "NO", "false", "False", "FALSE", "off", "Off", "OFF"]

/-- What a plain scalar stands for. -/
def plain (t : Text) : Except Fault Value :=
  if nullTexts.contains t then .ok .null
  else if trueTexts.contains t then .ok (.bool true)
  else if falseTexts.contains t then .ok (.bool false)
  else if t = ['='] ∨ t = ['<', '<'] then .error .malformed
  else match float? t, int? t, (day? 2 t).or (moment? t) with
    | some x, _, _ => match floatFault? t with
        | none => .ok (.float x)
        | some fault => .error fault
    | none, some n, _ => match intFault? t with
        | none => .ok (.int n)
        | some fault => .error fault
    | none, none, some fault => dated fault
    | none, none, none => .ok (.text t)

/-! ## Scalars of a declared kind -/

/-- The tag of a kind of value. -/
def core (kind : Text) : Text := "tag:yaml.org,2002:" ++ kind

/-- What follows the mark that a numeral may bear of its base. -/
def dropMark (base : Nat) : Text → Text
  | '0' :: mark :: rest =>
      if (base = 2 ∧ (mark = 'b' ∨ mark = 'B')) ∨ (base = 8 ∧ (mark = 'o' ∨ mark = 'O')) ∨
          (base = 16 ∧ (mark = 'x' ∨ mark = 'X')) then rest
      else '0' :: mark :: rest
  | t => t

/-- A numeral of a base as it is read leniently: padding around it, a sign, a mark of the base, and
    digits of any script. -/
def numeral (base : Nat) (t : Text) : Except Fault Int :=
  let (negative, body) := Decimal.takeSign (Text.trimPadding (Text.plainDigits t))
  let digits := dropMark base body
  if digits.isEmpty || !digits.all (fun c => (Text.hexValue? c).any (· < base)) then
    .error (noNumeral base t)
  else if base = 10 ∧ mostDigits < digits.length then .error (tooLong digits.length)
  else .ok (Decimal.signed negative (runValue base digits))

/-- A scalar that is declared to be an integer. -/
def taggedInt (t : Text) : Except Fault Value := do
  let (negative, body) := Decimal.takeSign (t.filter (· ≠ '_'))
  let n ← match body with
    | [] => throw .noDigits
    | ['0'] => pure 0
    | '0' :: 'b' :: rest => numeral 2 rest
    | '0' :: 'x' :: rest => numeral 16 rest
    | '0' :: _ => numeral 8 body
    | _ => do
        let parts ← (Text.splitOn ':' body).mapM (numeral 10)
        pure (parts.foldl (fun n part => 60 * n + part) 0)
  return .int (if negative then -n else n)

/-- A float as it is read leniently. -/
def lenientFloat (t : Text) : Except Fault Float :=
  match Decimal.readFloat? (Text.plainDigits t) with
  | some x => .ok x
  | none => .error (.outOfRange ("could not convert string to float: " ++ PageValue.declareText t))

/-- A scalar that is declared to be a float. -/
def taggedFloat (t : Text) : Except Fault Value := do
  let text := Text.lower (t.filter (· ≠ '_'))
  if text.isEmpty then throw .noDigits
  let (negative, body) := Decimal.takeSign text
  let sign (x : Float) : Float := if negative then -x else x
  if body = ".inf".toList then return .float (sign (1.0 / 0.0))
  if body = ".nan".toList then return .float (0.0 / 0.0)
  let parts ← (Text.splitOn ':' body).mapM lenientFloat
  if let some fault := floatFault? body then throw fault
  return .float (sign (parts.foldl (fun x part => 60.0 * x + part) 0.0))

/-- A scalar that is declared to be a truth value, in any case. -/
def taggedBool (t : Text) : Except Fault Value :=
  let name := Text.lower t
  if trueTexts.contains name then .ok (.bool true)
  else if falseTexts.contains name then .ok (.bool false)
  else .error (.noTruth name)

/-- A scalar that is declared to be a date. -/
def taggedDate (t : Text) : Except Fault Value :=
  match (day? 1 t).or (moment? t) with
  | some fault => dated fault
  | none => .error .noDate

/-- The six bits that a character stands for in the base of 64. -/
def sixBits? (c : Char) : Option Nat :=
  if c.isUpper then some (c.toNat - 'A'.toNat)
  else if c.isLower then some (c.toNat - 'a'.toNat + 26)
  else if c.isDigit then some (c.toNat - '0'.toNat + 52)
  else if c = '+' then some 62
  else if c = '/' then some 63
  else none

/-- The octets of characters in the base of 64, four for three octets; `place` counts the characters
    of the open four, `bits` holds what they leave over, and `pads` counts the equals signs behind
    them, which may stand for what is missing. Other characters are passed over. -/
def sextets? (place bits pads : Nat) : Text → Option Octets
  | [] => if place = 0 then some [] else none
  | c :: rest =>
      if c = '=' then
        if 2 ≤ place then
          if 4 ≤ place + pads + 1 then some [] else sextets? place bits (pads + 1) rest
        else sextets? place bits pads rest
      else match sixBits? c, place with
        | none, _ => sextets? place bits pads rest
        | some n, 0 => sextets? 1 n 0 rest
        | some n, 1 => (sextets? 2 (n % 16) 0 rest).map (UInt8.ofNat (bits * 4 + n / 16) :: ·)
        | some n, 2 => (sextets? 3 (n % 4) 0 rest).map (UInt8.ofNat (bits * 16 + n / 4) :: ·)
        | some n, _ => (sextets? 0 0 0 rest).map (UInt8.ofNat (bits * 64 + n) :: ·)

/-- A scalar that is declared to be octets. -/
def taggedOctets (t : Text) : Except Fault Value :=
  if t.all (·.toNat < 0x80) then
    match sextets? 0 0 0 t with
    | some content => .ok (.octets content)
    | none => .error .malformed
  else .error .malformed

/-- What a scalar stands for. The tag that names no kind has any scalar read as a plain one. -/
def value (t : Text) (isPlain : Bool) : Option Text → Except Fault Value
  | none => if isPlain then plain t else .ok (.text t)
  | some tag =>
      if tag = ['!'] then plain t
      else if tag = core "str" then .ok (.text t)
      else if tag = core "null" then .ok .null
      else if tag = core "int" then taggedInt t
      else if tag = core "float" then taggedFloat t
      else if tag = core "bool" then taggedBool t
      else if tag = core "timestamp" then taggedDate t
      else if tag = core "binary" then taggedOctets t
      else .error .malformed

/-- The tags of single scalars. -/
def kinds : List Text :=
  [core "str", core "null", core "int", core "float", core "bool", core "timestamp", core "binary"]

end Scalar

/-- A part of a value in the making, or its fault and how deep the collection stands that was being
    filled. Collections are filled level by level: those inside others wait until all others of
    their level are filled. -/
abbrev Part (α : Type) := Except (Nat × Fault) α

namespace Part

/-- Two parts of a collection. The fault that stands less deep is met first, and of two on one level
    the former. -/
def both {α β : Type} (f : Part (α → β)) (x : Part α) : Part β :=
  match f, x with
  | .ok f, .ok x => .ok (f x)
  | .error fault, .ok _ => .error fault
  | .ok _, .error fault => .error fault
  | .error former, .error latter => .error (if latter.1 < former.1 then latter else former)

/-- All parts of a collection. -/
def all {α : Type} : List (Part α) → Part (List α)
  | [] => .ok []
  | part :: rest => both (part.map List.cons) (all rest)

end Part

namespace Value

/-- Whether a node is the key that brings in another mapping. -/
def isMerge : Node → Bool
  | .scalar t plain tag =>
      (t = ['<', '<'] && (tag = some ['!'] || plain && tag.isNone)) ||
        tag = some (Scalar.core "merge")
  | _ => false

/-- Whether a node is the key of the value that a mapping stands for. -/
def isDefault : Node → Bool
  | .scalar t plain tag =>
      (t = ['='] && (tag = some ['!'] || plain && tag.isNone)) || tag = some (Scalar.core "value")
  | _ => false

/-- The mappings that a merged node brings in, the last of a sequence first. -/
def merged (flatten : List (Node × Node) → Except Fault (List (Node × Node))) :
    Node → Except Fault (List (Node × Node))
  | .mapping entries _ => flatten entries
  | .sequence items _ => do
      let parts ← items.mapM fun
        | .mapping entries _ => flatten entries
        | _ => .error .malformed
      return parts.reverse.flatten
  | _ => .error .malformed

/-- The entries of a mapping, those that it merges in front. -/
def flatten : Nat → List (Node × Node) → Except Fault (List (Node × Node))
  | 0, _ => .error .malformed
  | fuel + 1, entries => do
      let parts ← (entries.filter fun e => isMerge e.1).mapM fun e => merged (flatten fuel) e.2
      return parts.flatten ++ entries.filter fun e => !isMerge e.1

/-- The tags of lists of pairs. -/
def pairKinds : List Text := [Scalar.core "omap", Scalar.core "pairs"]

/-- The tags of mappings, and of sets. -/
def mappingKinds : List Text := [Scalar.core "map", Scalar.core "set"]

/-- The tags of collections. -/
def collectionKinds : List Text := Scalar.core "seq" :: (pairKinds ++ mappingKinds)

/-- The tag of a collection. The one that names no kind says nothing. -/
def kindOf (usual : Text) : Option Text → Text
  | none => Scalar.core usual
  | some tag => if tag = ['!'] then Scalar.core usual else tag

/-- Whether a node is made into a collection. -/
def isCollection : Node → Bool
  | .scalar _ _ tag => tag.any collectionKinds.contains
  | .sequence _ tag => collectionKinds.contains (kindOf "seq" tag)
  | .mapping _ tag => collectionKinds.contains (kindOf "map" tag)

/-- The text of a node that is asked for one: a mapping has that of its default. -/
def textOf? : Nat → Node → Option Text
  | 0, _ => none
  | _, .scalar t _ _ => some t
  | _, .sequence _ _ => none
  | fuel + 1, .mapping entries _ =>
      (entries.find? fun e => isDefault e.1).bind fun e => textOf? fuel e.2

/-- A mapping that is declared to be a scalar. -/
def ofDefault (text : Option Text) (tag : Text) : Except Fault Value :=
  match text with
  | none => .error .malformed
  | some t =>
      if tag = Scalar.core "timestamp" then .error .noText else Scalar.value t false (some tag)

/-- The value of a key of a collection at some depth: a scalar. -/
def keyOf (depth : Nat) (build : Node → Part Value) (node : Node) : Part Value :=
  if isCollection node then .error (depth, .malformed)
  else match node, isDefault node with
    | .scalar t _ _, true => .ok (.text t)
    | node, _ => build node

/-- An entry of a mapping. -/
def entryOf (depth : Nat) (build : Node → Part Value) (entry : Node × Node) :
    Part (Value × Value) :=
  Part.both ((keyOf depth build entry.1).map Prod.mk) (build entry.2)

/-- An item of a list of pairs: a mapping with one entry. -/
def pairOf (depth : Nat) (build : Node → Part Value) : Node → Part Value
  | .mapping [(key, value)] _ =>
      Part.both ((build key).map fun key value => .list [key, value]) (build value)
  | _ => .error (depth, .malformed)

/-- The value of a node that stands at some depth. The members of a set are its keys. -/
def ofNode : Nat → Nat → Node → Part Value
  | 0, depth, _ => .error (depth, .malformed)
  | _ + 1, depth, .scalar t plain tag =>
      if tag.any collectionKinds.contains then .error (depth + 1, .malformed)
      else (Scalar.value t plain tag).mapError fun fault => (depth, fault)
  | fuel + 1, depth, .sequence items tag =>
      let kind := kindOf "seq" tag
      if kind = Scalar.core "seq" then
        (Part.all (items.map (ofNode fuel (depth + 1)))).map .list
      else if pairKinds.contains kind then
        (Part.all (items.map (pairOf (depth + 1) (ofNode fuel (depth + 1))))).map .list
      else if collectionKinds.contains kind then .error (depth + 1, .malformed)
      else .error (depth, .malformed)
  | fuel + 1, depth, .mapping entries tag =>
      let kind := kindOf "map" tag
      if mappingKinds.contains kind then do
        let entries ← (flatten fuel entries).mapError fun fault => (depth + 1, fault)
        let entries ← Part.all (entries.map (entryOf (depth + 1) (ofNode fuel (depth + 1))))
        return if kind = Scalar.core "map" then .dict entries else .list (entries.map (·.1))
      else if collectionKinds.contains kind then .error (depth + 1, .malformed)
      else if Scalar.kinds.contains kind then
        (ofDefault (textOf? (fuel + 1) (.mapping entries tag)) kind).mapError fun fault =>
          (depth, fault)
      else .error (depth, .malformed)

/-- The value that a text writes; nothing for a text without any. -/
def read (t : Text) : Except Fault Value := do
  match ← Node.read t with
  | none => return .null
  | some root => (ofNode (t.length + 2) 0 root).mapError (·.2)

end Value
end Yaml
end PageLoom
