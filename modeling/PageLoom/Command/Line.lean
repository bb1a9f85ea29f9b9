import PageLoom.Command.Switch
import PageLoom.SitePath

set_option autoImplicit false

/-! # Reading a command line

Words are consumed from left to right: plain words fill the two directories, options take effect as
they come. A command line that asks for the version, or for help, ends there. What is left over, or
missing, is only reported at the end. -/

namespace PageLoom
namespace Command

/-- What a command line says. -/
structure Line where
  serve : Bool
  port : Option Int
  bundlerDir : Option Text
  noBundler : Bool
  configFile : Option Text
  verbosity : Int
  /-- The directories given so far: the input, then the output. -/
  directories : List Text
  /-- Words that found no use. -/
  leftover : List Text
  deriving DecidableEq, Repr

/-- How reading a command line ends before its end. -/
inductive LineEnd where
  | help
  | version
  | fault (f : UsageFault)
  deriving DecidableEq, Repr

namespace Line

/-- Nothing was said yet. -/
def empty : Line := ⟨false, none, none, false, none, 1, [], []⟩

/-- The names of the two directories. -/
def directoryNames : List Text := ["inputdir".toList, "outputdir".toList]

/-- An option without a value takes effect. -/
def applyFlag (l : Line) : Switch → Except LineEnd Line
  | .help => .error .help
  | .version => .error .version
  | .serve => .ok { l with serve := true }
  | .noBundler => .ok { l with noBundler := true }
  | .verbosity => .ok { l with verbosity := l.verbosity + 1 }
  | _ => .ok l

/-- An option with its value takes effect. The stop mark is no value. -/
def applyValue (l : Line) (s : Switch) (value : Text) : Except LineEnd Line :=
  let given := if value = "--".toList then none else some value
  match s with
  | .port => match given with
      | none => .ok { l with port := none }
      | some t => match Decimal.readInteger? t with
          | some n => .ok { l with port := some n }
          | none => .error (.fault (.noInteger s t))
  | .bundlerDir => .ok { l with bundlerDir := given }
  | .configFile => .ok { l with configFile := given }
  | _ => .ok l

/-- A word of one-letter options, none of which takes a value: the options it names, and what is
    left of it from the first letter on that is none. -/
def bundled (s : Switch) : Text → Except UsageFault (List Switch × Option Text)
  | [] => .ok ([s], none)
  | '=' :: value => .error (.ignoredValue s value)
  | '-' :: rest => .error (.ignoredValue s ('-' :: rest))
  | c :: rest =>
      match Switch.ofSpelling? ['-', c] with
      | some next => do
          let (more, left) ← bundled next rest
          return (s :: more, left)
      | none => .ok ([s], some ('-' :: c :: rest))

/-- An option with what its own word says behind it takes effect. A word of several one-letter
    options is understood as a whole first. -/
def applyTail (l : Line) (s : Switch) : Tail → Except LineEnd Line
  | .equals value =>
      if s.takesValue then l.applyValue s value else .error (.fault (.ignoredValue s value))
  | .behind t =>
      if s.takesValue then l.applyValue s t
      else match bundled s t with
        | .ok (flags, left) =>
            flags.foldlM applyFlag { l with leftover := l.leftover ++ left.toList }
        | .error f => .error (.fault f)

/-- Whether a directory is still missing. -/
def wantsDirectory (l : Line) : Bool := l.directories.length < directoryNames.length

/-- A plain word takes its place. -/
def place (l : Line) (t : Text) : Line :=
  if l.wantsDirectory then { l with directories := l.directories ++ [t] }
  else { l with leftover := l.leftover ++ [t] }

/-- The stop mark finds no use. -/
def placeStop (l : Line) : Line := { l with leftover := l.leftover ++ ["--".toList] }

/-- Words take effect one after the other. A stop mark belongs to the directory before or after
    it. -/
def readWords : List Word → Line → Except LineEnd Line
  | [], l => .ok l
  | .plain t :: .stop :: rest, l =>
      readWords rest (if l.wantsDirectory then l.place t else (l.place t).placeStop)
  | .plain t :: rest, l => readWords rest (l.place t)
  | .stop :: .plain t :: rest, l =>
      readWords rest (if l.wantsDirectory then l.place t else l.placeStop.place t)
  | .stop :: rest, l => readWords rest l.placeStop
  | .unknown t :: rest, l => readWords rest { l with leftover := l.leftover ++ [t] }
  | .option s _ (some tail) :: rest, l => do readWords rest (← l.applyTail s tail)
  | .option s _ none :: .plain value :: rest, l =>
      if s.takesValue then do readWords rest (← l.applyValue s value)
      else do readWords (.plain value :: rest) (← l.applyFlag s)
  | .option s _ none :: rest, l =>
      if s.takesValue then .error (.fault (.missingValue s))
      else do readWords rest (← l.applyFlag s)
termination_by words => words.length

/-- The directories that were not given. -/
def missing (l : Line) : List Text := directoryNames.drop l.directories.length

/-- Reads a command line. -/
def read (arguments : List Text) : Except LineEnd Line := do
  let words ← (Word.ofTexts arguments).mapError .fault
  let l ← readWords words empty
  if ¬ l.missing.isEmpty then throw (.fault (.required l.missing))
  if ¬ l.leftover.isEmpty then throw (.fault (.unrecognized l.leftover))
  return l

/-- The input directory, as it is shown. -/
def inputDir (l : Line) : Text := SitePath.tidy (l.directories[0]?.getD [])

/-- The output directory, as it is shown. -/
def outputDir (l : Line) : Text := SitePath.tidy (l.directories[1]?.getD [])

end Line
end Command
end PageLoom
