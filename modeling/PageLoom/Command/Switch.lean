import PageLoom.Decimal.Reading
import PageLoom.PageValue
import PageLoom.Text.Digit

set_option autoImplicit false

/-! # The options of the command line

An option has one or more spellings, of which the long ones may be shortened as long as it stays
clear which is meant. A value follows its option as the next word, after `=`, or, for a one-letter
option, right behind the letter; options of one letter that take no value may share a dash. -/

namespace PageLoom
namespace Command

/-- The options. -/
inductive Switch where
  | help
  | serve
  | port
  | bundlerDir
  | noBundler
  | configFile
  | verbosity
  | version
  | saveInputMeta
  | saveOutputMeta
  deriving DecidableEq, Repr

namespace Switch

/-- All spellings, in the order in which they are listed when several fit. -/
def spellings : List (Text × Switch) := [
  ("-h", help), ("--help", help), ("--serve", serve), ("--port", port), ("--viteDir", bundlerDir),
  ("--noBundler", noBundler), ("--configFile", configFile), ("-v", verbosity),
  ("--verbosity", verbosity), ("-V", version), ("--version", version),
  ("--saveinputmeta", saveInputMeta), ("--saveoutputmeta", saveOutputMeta)]

/-- Whether a value belongs to the option. -/
def takesValue : Switch → Bool
  | port | bundlerDir | configFile => true
  | _ => false

/-- The option of a spelling. -/
def ofSpelling? (t : Text) : Option Switch := (spellings.find? (·.1 = t)).map Prod.snd

/-- All spellings of the option, as messages name it. -/
def name (s : Switch) : Text := Text.join "/" ((spellings.filter (·.2 = s)).map Prod.fst)

end Switch

/-- Why a command line is refused. -/
inductive UsageFault where
  /-- A shortened option that fits several. -/
  | ambiguous (word : Text) (fitting : List Text)
  /-- A value given to an option that takes none. -/
  | ignoredValue (switch : Switch) (value : Text)
  | missingValue (switch : Switch)
  | noInteger (switch : Switch) (value : Text)
  /-- Directories that were not given. -/
  | required (names : List Text)
  | unrecognized (words : List Text)
  deriving DecidableEq, Repr

/-- The text of a usage fault. -/
def UsageFault.message : UsageFault → Text
  | ambiguous word fitting =>
      "ambiguous option: " ++ word ++ " could match " ++ Text.join ", " fitting
  | ignoredValue s value =>
      "argument " ++ s.name ++ ": ignored explicit argument " ++ PageValue.declareText value
  | missingValue s => "argument " ++ s.name ++ ": expected one argument"
  | noInteger s value =>
      "argument " ++ s.name ++ ": invalid int value: " ++ PageValue.declareText value
  | required names => "the following arguments are required: " ++ Text.join ", " names
  | unrecognized words => "unrecognized arguments: " ++ Text.join " " words

/-- What the word of an option says behind its spelling. -/
inductive Tail where
  /-- A value after `=`. -/
  | equals (value : Text)
  /-- Text right behind the letter of an option. -/
  | behind (t : Text)
  deriving DecidableEq, Repr

/-- A word of the command line, by its form. -/
inductive Word where
  /-- A word that is no option. -/
  | plain (t : Text)
  /-- The mark after which no word is an option. -/
  | stop
  /-- An option by its spelling, and what the same word says behind it. -/
  | option (switch : Switch) (spelling : Text) (tail : Option Tail)
  /-- A word that looks like an option and is none. -/
  | unknown (t : Text)
  deriving DecidableEq, Repr

namespace Word

/-- Whether a word looks like an option. -/
def isOption : Word → Bool
  | option .. | unknown _ => true
  | _ => false

/-- The text of a word that was left over. -/
def leftover : Word → Text
  | plain t => t
  | stop => "--"
  | option _ spelling _ => spelling
  | unknown t => t

/-- Digits of any script. -/
def areDigits (t : Text) : Bool := !t.isEmpty && t.all fun c => (Text.digitValue? c).isSome

/-- A negative number: digits, or a point with digits after it; a line end may follow. -/
def isNegativeNumber : Text → Bool
  | '-' :: t =>
      let t := if t.getLast? = some '\n' then t.dropLast else t
      match Text.splitFirst? "." t with
      | some (whole, fraction) => (whole.isEmpty || areDigits whole) && areDigits fraction
      | none => areDigits t
  | _ => false

/-- Splits a word at its first `=`. -/
def splitValue (t : Text) : Text × Option Text :=
  match Text.splitFirst? "=" t with
  | some (before, after) => (before, some after)
  | none => (t, none)

/-- The options that a word with a dash may mean. -/
def candidates (t : Text) : List (Switch × Text × Option Tail) :=
  match t with
  | '-' :: '-' :: _ =>
      let (front, value) := splitValue t
      (Switch.spellings.filter fun s => front.isPrefixOf s.1).map fun s =>
        (s.2, s.1, value.map .equals)
  | _ => Switch.spellings.filterMap fun s =>
      if s.1 = t.take 2 then some (s.2, s.1, some (.behind (t.drop 2)))
      else if t.isPrefixOf s.1 then some (s.2, s.1, none)
      else none

/-- The form of a word before the stop mark. -/
def ofText (t : Text) : Except UsageFault Word :=
  if t.head? ≠ some '-' then .ok (.plain t)
  else match Switch.ofSpelling? t with
    | some s => .ok (.option s t none)
    | none =>
        if t.length = 1 then .ok (.plain t)
        else
          let (front, value) := splitValue t
          match value, Switch.ofSpelling? front with
          | some v, some s => .ok (.option s front (some (.equals v)))
          | _, _ =>
              match candidates t with
              | [(s, spelling, tail)] => .ok (.option s spelling tail)
              | [] =>
                  if isNegativeNumber t ∨ t.contains ' ' then .ok (.plain t) else .ok (.unknown t)
              | several => .error (.ambiguous t (several.map (·.2.1)))

/-- The forms of all words. -/
def ofTexts : List Text → Except UsageFault (List Word)
  | [] => .ok []
  | t :: rest =>
      if t = "--".toList then .ok (.stop :: rest.map .plain)
      else do
        let w ← ofText t
        return w :: (← ofTexts rest)

end Word
end Command
end PageLoom
