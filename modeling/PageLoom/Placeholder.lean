import PageLoom.Decimal.Reading
import PageLoom.PageValue

set_option autoImplicit false

/-! # Texts with placeholders

A pattern holds fields `{name}`, which stand for the named arguments, and doubled braces, which
stand for single ones. A field may ask for a width, a fill and an alignment, and for a greatest
length: `{name:*<8.3}`, and `!s` before it takes the plain text of an argument first. A pattern is
filled from left to right, and its first fault counts. -/

namespace PageLoom

/-- What a field can stand for. Numbers are set to the right, texts to the left. -/
inductive Argument where
  | text (t : Text)
  | number (n : Int)
  deriving DecidableEq, Repr

/-- The plain text of an argument. -/
def Argument.plain : Argument → Text
  | .text t => t
  | .number n => Text.ofInt n

namespace Placeholder

/-- Why the layout behind a colon is refused. -/
inductive LayoutFault where
  /-- The letter at the end means nothing for the argument. -/
  | unknownCode (code : Char) (forNumber : Bool)
  /-- Something is left over. -/
  | malformed (layout : Text) (forNumber : Bool)
  /-- A point without a length after it. -/
  | noLimit
  /-- A length for a number. -/
  | limitOnNumber
  /-- What is there for numbers only. -/
  | notForTexts (what : Text)
  deriving DecidableEq, Repr

/-- Why a pattern cannot be filled. -/
inductive Fault where
  /-- An opening brace ends the pattern. -/
  | loneOpen
  /-- A closing brace stands outside a field. -/
  | loneClose
  /-- A field is not closed. -/
  | unclosed
  /-- A layout is not closed. -/
  | unclosedLayout
  /-- An opening brace stands inside a field's name. -/
  | braceInName
  /-- The pattern ends where a conversion should stand. -/
  | noConversion
  /-- Something other than a colon follows a conversion. -/
  | afterConversion
  | unknownConversion (code : Char)
  /-- A field is numbered, and there are no numbered arguments. -/
  | noPosition (index : Nat)
  /-- No argument has the field's name. -/
  | unknownName (name : Text)
  /-- Fields in layouts of fields in layouts. -/
  | tooDeep
  | layout (fault : LayoutFault)
  deriving DecidableEq, Repr

/-- The kind of an argument, as faults name it. -/
def kindName (forNumber : Bool) : Text := if forNumber then "'int'" else "'str'"

/-- The wording of each fault of a layout. -/
def LayoutFault.message : LayoutFault → Text
  | .unknownCode code forNumber =>
      let shown : Text := if 32 < code.toNat ∧ code.toNat < 128 then [code]
        else "\\x" ++ Nat.toDigits 16 code.toNat
      "Unknown format code '" ++ shown ++ "' for object of type " ++ kindName forNumber
  | .malformed layout forNumber =>
      "Invalid format specifier '" ++ layout ++ "' for object of type " ++ kindName forNumber
  | .noLimit => "Format specifier missing precision"
  | .limitOnNumber => "Precision not allowed in integer format specifier"
  | .notForTexts what => what ++ " not allowed in string format specifier"

/-- The wording of each fault. -/
def Fault.message : Fault → Text
  | .loneOpen => "Single '\x7b' encountered in format string"
  | .loneClose => "Single '\x7d' encountered in format string"
  | .unclosed => "expected '\x7d' before end of string"
  | .unclosedLayout => "unmatched '\x7b' in format spec"
  | .braceInName => "unexpected '\x7b' in field name"
  | .noConversion => "end of string while looking for conversion specifier"
  | .afterConversion => "expected ':' after conversion specifier"
  | .unknownConversion code => "Unknown conversion specifier " ++ [code]
  | .noPosition index =>
      "Replacement index " ++ Text.ofNat index ++ " out of range for positional args tuple"
  | .unknownName name => PageValue.declareText name
  | .tooDeep => "Max string recursion exceeded"
  | .layout fault => fault.message

/-! ## Layouts -/

/-- Where an argument stands in a field wider than itself. -/
inductive Alignment where
  | left
  | right
  | center
  /-- To the right, with the fill behind the sign. -/
  | behindSign
  deriving DecidableEq, Repr

/-- The alignment a character asks for. -/
def alignment? : Char → Option Alignment
  | '<' => some .left
  | '>' => some .right
  | '^' => some .center
  | '=' => some .behindSign
  | _ => none

/-- How a field is laid out. -/
structure Layout where
  fill : Char
  align : Option Alignment
  /-- The sign mark, if there is one. -/
  sign : Option Char
  width : Nat
  limit : Option Nat
  deriving DecidableEq, Repr

/-- The fill, if it is given, the alignment, if it is given, and what follows them. -/
def takeAlignment : Text → Option Char × Option Alignment × Text
  | fill :: a :: rest =>
      match alignment? a, alignment? fill with
      | some align, _ => (some fill, some align, rest)
      | none, some align => (none, some align, a :: rest)
      | none, none => (none, none, fill :: a :: rest)
  | [a] => (none, alignment? a, if (alignment? a).isSome then [] else [a])
  | [] => (none, none, [])

/-- One of some characters at the front, if it is there, and what follows it. -/
def takeMark (marks : List Char) : Text → Option Char × Text
  | c :: rest => if marks.contains c then (some c, rest) else (none, c :: rest)
  | [] => (none, [])

/-- Reads the layout of a text, or of a number. -/
def readLayout (forNumber : Bool) (code : Text) : Except LayoutFault Layout := do
  let (fill, align, rest) := takeAlignment code
  let (sign, rest) := takeMark [' ', '+', '-'] rest
  let (zero, rest) := takeMark ['z'] rest
  let (alternate, rest) := takeMark ['#'] rest
  let (padding, rest) := if fill.isNone then takeMark ['0'] rest else (none, rest)
  let (width, rest) := Decimal.takeDigits rest
  let (point, rest) := takeMark ['.'] rest
  let (limit, rest) := if point.isSome then Decimal.takeDigits rest else ([], rest)
  if point.isSome ∧ limit.isEmpty then throw .noLimit
  if 1 < rest.length then throw (.malformed code forNumber)
  if let some c := rest.head? then
    if c ≠ (if forNumber then 'd' else 's') then throw (.unknownCode c forNumber)
  let align := if align.isNone ∧ padding.isSome ∧ forNumber then some .behindSign else align
  if ¬ forNumber then
    if sign = some ' ' then throw (.notForTexts "Space")
    if sign.isSome then throw (.notForTexts "Sign")
    if zero.isSome then throw (.notForTexts "Negative zero coercion (z)")
    if alternate.isSome then throw (.notForTexts "Alternate form (#)")
    if align = some .behindSign then throw (.notForTexts "'=' alignment")
  else if point.isSome then throw .limitOnNumber
  return ⟨(fill.or padding).getD ' ', align, sign, Text.digitsValue width,
    if point.isSome then some (Text.digitsValue limit) else none⟩

/-- The sign that a number shows. -/
def signOf (mark : Option Char) (n : Int) : Text :=
  if n < 0 then ['-'] else match mark with
    | some '+' => ['+']
    | some ' ' => [' ']
    | _ => []

/-- Fills a field. -/
def Layout.apply (layout : Layout) (argument : Argument) : Text :=
  let (sign, shown, ordinary) := match argument with
    | .text t => ([], match layout.limit with
        | some limit => t.take limit
        | none => t, Alignment.left)
    | .number n => (signOf layout.sign n, Text.ofNat n.natAbs, Alignment.right)
  let room := layout.width - (sign.length + shown.length)
  match layout.align.getD ordinary with
  | .left => sign ++ shown ++ List.replicate room layout.fill
  | .right => List.replicate room layout.fill ++ sign ++ shown
  | .center =>
      List.replicate (room / 2) layout.fill ++ sign ++ shown ++
        List.replicate (room - room / 2) layout.fill
  | .behindSign => sign ++ List.replicate room layout.fill ++ shown

/-! ## Fields -/

/-- A field: its name, its conversion, and its layout, which may hold fields itself. -/
structure Field where
  name : Text
  conversion : Option Char
  layout : Text
  deriving DecidableEq, Repr

/-- The layout at the front and what follows the brace that closes its field; braces nest. -/
def takeLayout? : Nat → Text → Option (Text × Text)
  | _, [] => none
  | 0, '}' :: rest => some ([], rest)
  | depth + 1, '}' :: rest => (takeLayout? depth rest).map fun (f, r) => ('}' :: f, r)
  | depth, '{' :: rest => (takeLayout? (depth + 1) rest).map fun (f, r) => ('{' :: f, r)
  | depth, c :: rest => (takeLayout? depth rest).map fun (f, r) => (c :: f, r)

/-- The layout of a field and what follows the field. -/
def takeLayout (name : Text) (conversion : Option Char) (t : Text) : Except Fault (Field × Text) :=
  match takeLayout? 0 t with
  | some (layout, rest) => .ok (⟨name, conversion, layout⟩, rest)
  | none => .error .unclosedLayout

/-- The field at the front, behind its opening brace, and what follows it. -/
def takeField (t : Text) : Except Fault (Field × Text) :=
  let name := t.takeWhile fun c => c ≠ ':' ∧ c ≠ '!' ∧ c ≠ '}' ∧ c ≠ '{'
  match t.drop name.length with
  | '}' :: rest => .ok (⟨name, none, []⟩, rest)
  | ':' :: rest => takeLayout name none rest
  | '!' :: [] => .error .noConversion
  | '!' :: code :: [] => takeLayout name (some code) []
  | '!' :: code :: '}' :: rest => .ok (⟨name, some code, []⟩, rest)
  | '!' :: code :: ':' :: rest => takeLayout name (some code) rest
  | '!' :: _ => .error .afterConversion
  | '{' :: _ => .error .braceInName
  | _ => .error .unclosed

/-- The argument of a field. -/
def argumentOf (arguments : List (Text × Argument)) (f : Field) : Except Fault Argument := do
  if f.name.isEmpty then throw (.noPosition 0)
  if f.name.all Decimal.isDigit then throw (.noPosition (Text.digitsValue f.name))
  match (arguments.find? (·.1 = f.name)).map Prod.snd with
  | none => throw (.unknownName f.name)
  | some argument => match f.conversion, argument with
    | none, argument => return argument
    | some 's', argument => return .text argument.plain
    | some 'r', .text t => return .text (PageValue.declareText t)
    | some 'r', .number n => return .text (Text.ofInt n)
    | some code, _ => throw (.unknownConversion code)

/-- The argument in a layout; without a layout, its plain text. -/
def layOut (layout : Text) (argument : Argument) : Except Fault Text :=
  if layout.isEmpty then .ok argument.plain
  else
    let forNumber := match argument with
      | .text _ => false
      | .number _ => true
    match readLayout forNumber layout with
    | .ok l => .ok (l.apply argument)
    | .error fault => .error (.layout fault)

/-- The pattern with every field filled. Layouts hold fields down to `depth`. -/
def fillAt (arguments : List (Text × Argument)) : (depth : Nat) → Text → Except Fault Text
  | 0, _ => .error .tooDeep
  | depth + 1, pattern => go depth (pattern.length + 1) pattern
where
  go (depth : Nat) : Nat → Text → Except Fault Text
    | 0, _ => .ok []
    | _, [] => .ok []
    | fuel + 1, '{' :: '{' :: rest => (go depth fuel rest).map ('{' :: ·)
    | fuel + 1, '}' :: '}' :: rest => (go depth fuel rest).map ('}' :: ·)
    | _, '}' :: _ => .error .loneClose
    | _, ['{'] => .error .loneOpen
    | fuel + 1, '{' :: rest => do
        let (field, rest) ← takeField rest
        let argument ← argumentOf arguments field
        let layout ← if field.layout.contains '{' then fillAt arguments depth field.layout
          else pure field.layout
        let filled ← layOut layout argument
        return filled ++ (← go depth fuel rest)
    | fuel + 1, c :: rest => (go depth fuel rest).map (c :: ·)

/-- The pattern with every field filled. -/
def fill (arguments : List (Text × Argument)) (pattern : Text) : Except Fault Text :=
  fillAt arguments 2 pattern

end Placeholder
end PageLoom
