import PageLoom.Decimal.Reading
import PageLoom.Highlight.Tint

set_option autoImplicit false

/-! # Lexemes of script

A slash begins a pattern where a value is expected and is an operator elsewhere; after operators,
opening brackets and most keywords, and at the start of a line, a value is expected. A template
literal holds strings and holes, and a hole holds script again. -/

namespace PageLoom
namespace Highlight
namespace Script

/-- Where the lexer stands. -/
inductive State where
  | root
  /-- A value is expected. -/
  | value
  /-- After a slash that begins no pattern, until the end of the line. -/
  | stray
  /-- In a template literal. -/
  | template
  /-- In a hole of a template literal. -/
  | hole
  deriving DecidableEq, Repr

/-- Where the lexer goes after a piece. -/
inductive Move where
  | stay
  | enter (s : State)
  | leave
  deriving DecidableEq, Repr

/-- A piece at the front. -/
structure Piece where
  length : Nat
  tint : Tint
  move : Move

/-- Words that make an operator. -/
def operatorWords : List Text :=
  ["typeof", "instanceof", "in", "void", "delete", "new"].map String.toList

/-- Keywords after which no value is expected. -/
def closingWords : List Text :=
  ["constructor", "from", "as", "abstract", "boolean", "byte", "char", "double", "enum", "final",
    "float", "goto", "implements", "int", "interface", "long", "native", "package", "private",
    "protected", "public", "short", "synchronized", "throws", "transient", "volatile", "true",
    "false", "null", "NaN", "Infinity", "undefined"].map String.toList

/-- Keywords after which a value is expected. -/
def openingWords : List Text :=
  ["for", "while", "do", "break", "return", "continue", "switch", "case", "default", "if", "else",
    "throw", "try", "catch", "finally", "yield", "await", "async", "this", "of", "static", "export",
    "import", "debugger", "extends", "super", "var", "let", "const", "with", "function",
    "class"].map String.toList

/-- Names that every script knows. -/
def builtInNames : List Text :=
  ["Array", "Boolean", "Date", "BigInt", "Function", "Math", "ArrayBuffer", "Number", "Object",
    "RegExp", "String", "Promise", "Proxy", "decodeURI", "decodeURIComponent", "encodeURI",
    "encodeURIComponent", "eval", "isFinite", "isNaN", "parseFloat", "parseInt", "DataView",
    "document", "window", "globalThis", "global", "Symbol", "Intl", "WeakSet", "WeakMap", "Set",
    "Map", "Reflect", "JSON", "Atomics", "Int8Array", "Int16Array", "Int32Array", "BigInt64Array",
    "Float32Array", "Float64Array", "Uint8ClampedArray", "Uint8Array", "Uint16Array",
    "Uint32Array", "BigUint64Array"].map String.toList

/-- Names of errors. -/
def errorNames : List Text :=
  ["EvalError", "InternalError", "RangeError", "ReferenceError", "SyntaxError", "TypeError",
    "URIError", "Error"].map String.toList

/-! ## Blanks, comments and patterns -/

/-- The length of the line at the front, without its end. -/
def lineLength (t : Text) : Nat := span (· ≠ '\n') t

/-- Blanks and comments. -/
def gap? (t : Text) : Option Piece :=
  ((positive (span Text.isBlank t)).map (⟨·, .blank, .stay⟩)) <|>
  ((literal? "<!--" t).map (⟨·, .comment, .stay⟩)) <|>
  (if "//".toList.isPrefixOf t then some ⟨lineLength t, .comment, .stay⟩ else none) <|>
  (if "/*".toList.isPrefixOf t then
    (upTo? "*/" (t.drop 2)).map (⟨· + 2, .comment, .stay⟩) else none)

/-- The length of a class of characters after its bracket. -/
def classLength? : Text → Option Nat
  | ']' :: _ => some 1
  | '\\' :: _ :: rest => (classLength? rest).map (· + 2)
  | c :: rest => if c = '\n' ∨ c = '\\' then none else (classLength? rest).map (· + 1)
  | [] => none

/-- The length of a pattern's body and its closing slash; the fuel is the length of the text. -/
def bodyLength? : Nat → Text → Option Nat
  | 0, _ => none
  | _ + 1, '/' :: _ => some 1
  | fuel + 1, '\\' :: _ :: rest => (bodyLength? fuel rest).map (· + 2)
  | fuel + 1, '[' :: rest => do
      let n ← classLength? rest
      let m ← bodyLength? fuel (rest.drop n)
      return n + m + 1
  | fuel + 1, c :: rest =>
      if c = '\n' ∨ c = '\\' then none else (bodyLength? fuel rest).map (· + 1)
  | _ + 1, [] => none

/-- The length of a pattern with its flags. -/
def pattern? : Text → Option Nat
  | '/' :: rest => do
      if rest.head? = some '/' then none
      let n ← bodyLength? (rest.length + 1) rest
      let flags := wordAt (rest.drop n)
      if flags.all ("gimuysd".toList.contains ·) then return n + 1 + flags.length else none
  | _ => none

/-! ## Values and operators -/

/-- The length of digits of a base with a letter in front. -/
def based? (letters : List Char) (p : Char → Bool) (t : Text) : Option Nat :=
  match t with
  | '0' :: c :: rest =>
      if letters.contains c then do
        let n ← positive (span p rest)
        return n + 2 + (if rest[n]? = some 'n' then 1 else 0)
      else none
  | _ => none

/-- The digits of base eight. -/
def isOctal (c : Char) : Bool := '0' ≤ c && c ≤ '7'

/-- The length of a number. -/
def number? (t : Text) : Option Nat :=
  based? ['b', 'B'] (fun c => c = '0' || c = '1') t <|>
  based? ['o', 'O'] isOctal t <|>
  (match t with
    | '0' :: rest => do
        let n ← positive (span isOctal rest)
        return n + 1 + (if rest[n]? = some 'n' then 1 else 0)
    | _ => none) <|>
  based? ['x', 'X'] (fun c => (Text.hexValue? c).isSome) t <|>
  (do
    let n ← positive (span Decimal.isDigit t)
    if t[n]? = some 'n' then some (n + 1) else none) <|>
  (do
    let u ← Decimal.takeUnsigned? t
    if u.whole.isEmpty ∧ (u.fraction.getD []).isEmpty then none
    else some (t.length - u.rest.length))

/-- The length of an operator. -/
def operator? (t : Text) : Option Nat :=
  let assigned (n : Nat) : Nat := if t[n]? = some '=' then n + 1 else n
  match t with
  | '+' :: '+' :: _ | '-' :: '-' :: _ => some 2
  | '~' :: _ | ':' :: _ => some 1
  | '?' :: '?' :: _ => some (assigned 2)
  | '?' :: _ => some 1
  | '\\' :: '\n' :: _ => some 1
  | '<' :: '<' :: _ => some (assigned 2)
  | '>' :: '>' :: '>' :: _ => some (assigned 3)
  | '>' :: '>' :: _ => some (assigned 2)
  | '=' :: '=' :: _ => some (assigned 2)
  | '!' :: '=' :: _ => some (assigned 2)
  | '*' :: '*' :: _ => some (assigned 2)
  | '|' :: '|' :: _ => some (assigned 2)
  | '&' :: '&' :: _ => some (assigned 2)
  | c :: _ => if "=!-<>+*%&|^/".toList.contains c then some (assigned 1) else none
  | [] => none

/-- A character that can begin a name. -/
def beginsName (c : Char) : Bool :=
  c = '$' || (Text.isWord c && !Decimal.isDigit c)

/-- A character that can stand in a name. -/
def inName (c : Char) : Bool :=
  c = '$' || c = '\u200c' || c = '\u200d' || Text.isWord c

/-- The length of a character spelled by its number. -/
def spelledLength? : Text → Option Nat
  | '\\' :: 'u' :: rest =>
      let digits := rest.take 4
      if digits.length = 4 ∧ digits.all (fun c => (Text.hexValue? c).isSome) then some 6 else none
  | _ => none

/-- The length of the rest of a name; the fuel is the length of the text. -/
def nameRest : Nat → Text → Nat
  | 0, _ => 0
  | fuel + 1, t =>
      match spelledLength? t, t with
      | some n, _ => n + nameRest fuel (t.drop n)
      | none, c :: rest => if inName c then 1 + nameRest fuel rest else 0
      | none, [] => 0

/-- The length of a name. -/
def name? (t : Text) : Option Nat :=
  match spelledLength? t, t with
  | some n, _ => some (n + nameRest t.length (t.drop n))
  | none, c :: rest => if beginsName c then some (1 + nameRest t.length rest) else none
  | none, [] => none

/-- The length of a string after its opening quote. -/
def stringRest? (quote : Char) : Text → Option Nat
  | [] => none
  | '\\' :: _ :: rest => (stringRest? quote rest).map (· + 2)
  | c :: rest =>
      if c = quote then some 1 else if c = '\\' then none
      else (stringRest? quote rest).map (· + 1)

/-- A word, by its meaning. -/
def word? (t : Text) : Option Piece :=
  let w := wordAt t
  if w.isEmpty then none
  else if operatorWords.contains w then some ⟨w.length, .wordOperator, .enter .value⟩
  else if openingWords.contains w then some ⟨w.length, .keyword, .enter .value⟩
  else if closingWords.contains w then some ⟨w.length, .keyword, .stay⟩
  else if builtInNames.contains w then some ⟨w.length, .builtIn, .stay⟩
  else if errorNames.contains w then some ⟨w.length, .errorName, .stay⟩
  else none

/-- The name of a function in front of its empty parameters and its body. -/
def definedName? (t : Text) : Option Piece :=
  match t with
  | c :: _ =>
      let n := span (fun c => c = '?' || c = '.' || c = '$' || Text.isWord c) t
      if (c.isAlpha || c = '_' || c = '?' || c = '.' || c = '$') &&
          "() \x7b".toList.isPrefixOf (t.drop n) then some ⟨n, .plain, .enter .value⟩
      else none
  | [] => none

/-- A piece of script. -/
def rootPiece? (before : Option Char) (t : Text) : Option Piece :=
  (if before = none ∧ ("#!/".toList.isPrefixOf t ∨ "#! /".toList.isPrefixOf t) then
    some ⟨lineLength t, .comment, .stay⟩ else none) <|>
  (if (before = none ∨ before = some '\n') ∧
      ((t.head?.any fun c => Text.isBlank c || c = '/') ∨ "<!--".toList.isPrefixOf t) then
    some ⟨0, .plain, .enter .value⟩ else none) <|>
  gap? t <|>
  (number? t).map (⟨·, .number, .stay⟩) <|>
  (literal? "..." t).map (⟨·, .plain, .stay⟩) <|>
  (literal? "=>" t).map (⟨·, .plain, .stay⟩) <|>
  (operator? t).map (⟨·, .operator, .enter .value⟩) <|>
  (match t with
    | c :: rest =>
        if "\x7b([;,".toList.contains c then some ⟨1, .plain, .enter .value⟩
        else if "\x7d)].".toList.contains c then some ⟨1, .plain, .stay⟩
        else if c = '"' ∨ c = '\'' then
          (stringRest? c rest).map fun n => ⟨n + 1, .string, .stay⟩
        else if c = '\x60' then some ⟨1, .string, .enter .template⟩
        else if c = '#' ∧ (rest.head?.any fun c => c.isAlpha || c = '_') then
          some ⟨1 + (wordAt rest).length, .plain, .stay⟩
        else word? t <|> definedName? t <|> (name? t).map (⟨·, .plain, .stay⟩)
    | [] => none)

/-- A piece of a template literal. -/
def templatePiece? : Text → Option Piece
  | '\x60' :: _ => some ⟨1, .string, .leave⟩
  | '\\' :: _ :: _ => some ⟨2, .string, .stay⟩
  | '$' :: '\x7b' :: _ => some ⟨2, .hole, .enter .hole⟩
  | '$' :: _ => some ⟨1, .string, .stay⟩
  | t => (positive (span (fun c => c ≠ '\x60' && c ≠ '\\' && c ≠ '$') t)).map
      (⟨·, .string, .stay⟩)

/-- The cut that a piece makes. -/
def cutOf (s : State) (outer : List State) (p : Piece) : Cut State :=
  .one p.tint p.length <| match p.move with
    | .stay => s :: outer
    | .enter inner => inner :: s :: outer
    | .leave => outer

/-- The rule of script. -/
def rule : CutRule State
  | [], before, t => (rootPiece? before t).map (cutOf .root [])
  | .root :: outer, before, t => (rootPiece? before t).map (cutOf .root outer)
  | .hole :: outer, before, t =>
      if t.head? = some '\x7d' then some (.one .hole 1 outer)
      else (rootPiece? before t).map (cutOf .hole outer)
  | .template :: outer, _, t => (templatePiece? t).map (cutOf .template outer)
  | .stray :: outer, _, t => if t.head? = some '\n' then some (.one .blank 1 outer) else none
  | .value :: outer, _, t =>
      match gap? t, pattern? t with
      | some p, _ => some (cutOf .value outer p)
      | none, some n => some (.one .pattern n outer)
      | none, none => some ⟨[], if t.head? = some '/' then .stray :: outer else outer⟩

/-- The lexer of script. -/
def lexer : Lexer Tint := lexerOf rule [.root]

end Script
end Highlight
end PageLoom
