import PageLoom.Decimal.Notation
import PageLoom.Json.Basic
import PageLoom.Text.Printable
import PageLoom.Text.Utf8

set_option autoImplicit false

/-! # Values shown on a page

What a page shows for a value: nothing for null, texts as they are, numbers by the page's number
form, containers as compact JSON. A value without a JSON form (octets inside, or a container as a
key) falls back to a conversion, of which the ordinary one shows the value as it would be
declared. -/

namespace PageLoom

/-- A value. Integers and floats are told apart, lists and tuples too. -/
inductive PageValue where
  | null
  | bool (b : Bool)
  | int (n : Int)
  | float (x : Float)
  | text (t : Text)
  | octets (bytes : Octets)
  | list (items : List PageValue)
  | tuple (items : List PageValue)
  | dict (entries : List (PageValue × PageValue))
  deriving Inhabited

namespace PageValue

/-! ## Equality of keys -/

/-- The number a value counts as: truth values count as one and zero. -/
def number? : PageValue → Option (Int ⊕ Float)
  | .bool b => some (.inl (if b then 1 else 0))
  | .int n => some (.inl n)
  | .float x => match Decimal.whole? x with
    | some n => some (.inl n)
    | none => some (.inr x)
  | _ => none

mutual

/-- Whether two keys are the same key: numbers by value, whatever their kind. -/
def sameKey (a b : PageValue) : Bool :=
  match a, b with
  | .null, .null => true
  | .text s, .text t => s = t
  | .octets s, .octets t => s = t
  | .tuple s, .tuple t => sameKeys s t
  | a, b =>
      match number? a, number? b with
      | some (.inl m), some (.inl n) => m = n
      | some (.inr x), some (.inr y) => x == y
      | _, _ => false

/-- Whether two lists of keys agree item by item. -/
def sameKeys : List PageValue → List PageValue → Bool
  | [], [] => true
  | a :: s, b :: t => sameKey a b && sameKeys s t
  | _, _ => false

end

/-- Entries with one more: an equal key keeps its place and takes the new value. -/
def setEntry (key value : PageValue) :
    List (PageValue × PageValue) → List (PageValue × PageValue)
  | [] => [(key, value)]
  | (k, v) :: rest =>
      if sameKey k key then (k, value) :: rest else (k, v) :: setEntry key value rest

/-- A dictionary of entries, of which a later one with an equal key counts. -/
def ofEntries (entries : List (PageValue × PageValue)) : PageValue :=
  .dict (entries.foldl (fun known e => setEntry e.1 e.2 known) [])

/-! ## As declared -/

/-- One character of a declared text between the given quotes. -/
def declareChar (quote c : Char) : Text :=
  let n := c.toNat
  if c = quote ∨ c = '\\' then ['\\', c]
  else if c = '\n' then ['\\', 'n']
  else if c = '\r' then ['\\', 'r']
  else if c = '\t' then ['\\', 't']
  else if Text.isPrintable c then [c]
  else if n < 0x100 then '\\' :: 'x' :: (Json.hex4 n).drop 2
  else if n < 0x10000 then '\\' :: 'u' :: Json.hex4 n
  else '\\' :: 'U' :: Json.hex4 (n / 0x10000) ++ Json.hex4 n

/-- The quotes of a declared text: double ones only around a text that holds single quotes and no
    double ones. -/
def quoteFor (t : Text) : Char := if t.contains '\'' ∧ ¬ t.contains '"' then '"' else '\''

/-- A declared text. -/
def declareText (t : Text) : Text :=
  let quote := quoteFor t
  quote :: t.flatMap (declareChar quote) ++ [quote]

/-- Declared octets: each printable ASCII octet as its character. -/
def declareOctets (bytes : Octets) : Text :=
  let t : Text := bytes.map fun b => Char.ofNat b.toNat
  let quote := quoteFor t
  let one (c : Char) : Text :=
    if c.toNat < 0x7F then declareChar quote c else '\\' :: 'x' :: (Json.hex4 c.toNat).drop 2
  'b' :: quote :: t.flatMap one ++ [quote]

/-- Floats as they are declared: special values in lower case. -/
def declaredNumber : Decimal.Notation :=
  { Decimal.dataNotation with nan := "nan", infinity := "inf" }

mutual

/-- The value as it would be declared. -/
def declare : PageValue → Text
  | .null => "None"
  | .bool b => if b then "True" else "False"
  | .int n => Text.ofInt n
  | .float x => declaredNumber.write x
  | .text t => declareText t
  | .octets bytes => declareOctets bytes
  | .list items => '[' :: Text.join ", " (declareItems items) ++ [']']
  | .tuple [item] => '(' :: declare item ++ [',', ')']
  | .tuple items => '(' :: Text.join ", " (declareItems items) ++ [')']
  | .dict entries => '{' :: Text.join ", " (declareEntries entries) ++ ['}']

/-- The declared items. -/
def declareItems : List PageValue → List Text
  | [] => []
  | item :: rest => declare item :: declareItems rest

/-- The declared entries. -/
def declareEntries : List (PageValue × PageValue) → List Text
  | [] => []
  | (key, value) :: rest => (declare key ++ ": " ++ declare value) :: declareEntries rest

end

/-! ## As JSON -/

/-- The member name a key is written as. -/
def keyName? : PageValue → Option Text
  | .null => some "null"
  | .bool b => some (if b then "true" else "false")
  | .int n => some (Text.ofInt n)
  | .float x => some (Decimal.dataNotation.write x)
  | .text t => some t
  | _ => none

mutual

/-- The compact JSON form, if the value has one. -/
def json? : PageValue → Option Text
  | .null => some "null"
  | .bool b => some (if b then "true" else "false")
  | .int n => some (Text.ofInt n)
  | .float x => some (Decimal.dataNotation.write x)
  | .text t => some (Json.writeText t)
  | .octets _ => none
  | .list items | .tuple items => do
      return '[' :: Text.join "," (← jsonItems? items) ++ [']']
  | .dict entries => do
      return '{' :: Text.join "," (← jsonEntries? entries) ++ ['}']

/-- The JSON forms of items. -/
def jsonItems? : List PageValue → Option (List Text)
  | [] => some []
  | item :: rest => do return (← json? item) :: (← jsonItems? rest)

/-- The JSON forms of entries. -/
def jsonEntries? : List (PageValue × PageValue) → Option (List Text)
  | [] => some []
  | (key, value) :: rest => do
      let name ← keyName? key
      return (Json.writeText name ++ ':' :: (← json? value)) :: (← jsonEntries? rest)

end

/-! ## On the page -/

/-- What the page shows for a value, with the given conversion for values without JSON form. -/
def shown (convert : PageValue → Text) : PageValue → Text
  | .null => []
  | .text t => t
  | .bool b => if b then "true" else "false"
  | .int n => Text.ofInt n
  | .float x => Decimal.writePage x
  | value => (json? value).getD (convert value)

/-- The ordinary conversion. -/
def plain (value : PageValue) : Text := declare value

end PageValue
end PageLoom
