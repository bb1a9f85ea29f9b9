import PageLoom.Decimal.Notation
import PageLoom.Text.Utf8

set_option autoImplicit false

/-! # JSON values and how they are written

Integers and floats are told apart, and the members of an object keep the order in which their
names first appeared. The written form is compact and ASCII only. -/

namespace PageLoom

/-- A JSON value. -/
inductive Json where
  | null
  | bool (b : Bool)
  | int (n : Int)
  | float (x : Float)
  | text (t : Text)
  | array (items : List Json)
  | object (members : List (Text × Json))
  deriving Inhabited

/-- Members with one more: a name that is new goes to the end, a known name keeps its place and
    takes the new value. -/
def setMember {α : Type} (name : Text) (value : α) : List (Text × α) → List (Text × α)
  | [] => [(name, value)]
  | (known, old) :: rest =>
      if known = name then (known, value) :: rest else (known, old) :: setMember name value rest

/-- The value of a member. -/
def member? {α : Type} (name : Text) (members : List (Text × α)) : Option α :=
  (members.find? fun m => m.1 = name).map (·.2)

theorem member?_setMember_self {α : Type} (name : Text) (value : α) (members : List (Text × α)) :
    member? name (setMember name value members) = some value := by
  induction members with
  | nil => simp [setMember, member?]
  | cons m rest ih =>
      by_cases h : m.1 = name
      · simp [setMember, member?, h]
      · simp only [member?, setMember, h, if_false, List.find?_cons, decide_false] at ih ⊢
        exact ih

theorem member?_setMember_of_ne {α : Type} {name other : Text} (h : other ≠ name) (value : α)
    (members : List (Text × α)) :
    member? other (setMember name value members) = member? other members := by
  induction members with
  | nil => simp [setMember, member?, Ne.symm h]
  | cons m rest ih =>
      by_cases hm : m.1 = name
      · simp [setMember, member?, hm, Ne.symm h]
      · by_cases ho : m.1 = other
        · simp [setMember, member?, ho, h]
        · simp only [member?, setMember, hm, if_false, List.find?_cons, ho, decide_false] at ih ⊢
          exact ih

namespace Json

/-- Four lower-case hexadecimal digits. -/
def hex4 (n : Nat) : Text :=
  [Text.hexDigit (n / 4096), Text.hexDigit (n / 256), Text.hexDigit (n / 16), Text.hexDigit n]

/-- One character inside quotes. -/
def writeChar (c : Char) : Text :=
  match c with
  | '"' => ['\\', '"']
  | '\\' => ['\\', '\\']
  | '\n' => ['\\', 'n']
  | '\r' => ['\\', 'r']
  | '\t' => ['\\', 't']
  | '\x08' => ['\\', 'b']
  | '\x0c' => ['\\', 'f']
  | c =>
      let n := c.toNat
      if 0x20 ≤ n ∧ n ≤ 0x7E then [c]
      else if n < 0x10000 then '\\' :: 'u' :: hex4 n
      else
        '\\' :: 'u' :: hex4 (0xD800 + (n - 0x10000) / 0x400) ++
          '\\' :: 'u' :: hex4 (0xDC00 + (n - 0x10000) % 0x400)

/-- A quoted text. -/
def writeText (t : Text) : Text := '"' :: t.flatMap writeChar ++ ['"']

mutual

/-- The compact ASCII form of a value. -/
def write : Json → Text
  | .null => "null"
  | .bool b => if b then "true" else "false"
  | .int n => Text.ofInt n
  | .float x => Decimal.dataNotation.write x
  | .text t => writeText t
  | .array items => '[' :: Text.join "," (writeItems items) ++ [']']
  | .object members => '{' :: Text.join "," (writeMembers members) ++ ['}']

/-- The forms of the items of an array. -/
def writeItems : List Json → List Text
  | [] => []
  | item :: rest => write item :: writeItems rest

/-- The forms of the members of an object. -/
def writeMembers : List (Text × Json) → List Text
  | [] => []
  | (name, value) :: rest => (writeText name ++ ':' :: write value) :: writeMembers rest

end

end Json
end PageLoom
