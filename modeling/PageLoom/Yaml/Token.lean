import PageLoom.PageValue

set_option autoImplicit false

/-! # Tokens of YAML

A YAML text is cut into scalars and marks. Indentation outside of brackets becomes marks of its
own: a block opens where a line is indented deeper, and closes where a line is indented less. That
a scalar is a key is only known once the colon behind it is read, so the scanner remembers where
keys may have begun and puts their marks in afterwards. -/

namespace PageLoom
namespace Yaml

/-- A token. -/
inductive Token where
  | version (major : Nat)
  | tagShortcut (handle address : Text)
  | directive
  | documentStart
  | documentEnd
  | blockSequence
  | blockMapping
  | blockEnd
  | openSequence
  | openMapping
  | closeSequence
  | closeMapping
  | key
  | value
  | blockEntry
  | flowEntry
  | alias (name : Text)
  | anchor (name : Text)
  | tag (handle : Option Text) (suffix : Text)
  | scalar (t : Text) (plain : Bool)
  deriving DecidableEq, Repr

/-- Why a text has no value. -/
inductive Fault where
  /-- The text is not YAML, or holds what has no value. -/
  | malformed
  /-- A date or a number that does not exist. -/
  | outOfRange (message : Text)
  /-- An escape for a character that does not exist. -/
  | noCharacter (code : Nat)
  /-- A scalar that is declared to be a truth value names none. -/
  | noTruth (name : Text)
  /-- A scalar that is declared to be a date is none. -/
  | noDate
  /-- A scalar that is declared to be a number is empty. -/
  | noDigits
  /-- A float has more places of sixty than a float can count. -/
  | tooManyPlaces
  /-- What is declared to be a date is no scalar. -/
  | noText
  deriving DecidableEq

/-- The report of a fault; that of a text which is not YAML is not spelled out. -/
def Fault.message : Fault → Text
  | malformed => []
  | outOfRange message => message
  | noCharacter code =>
      if code < 0x80000000 then "chr() arg not in range(0x110000)"
      else "Python int too large to convert to C int"
  | noTruth name => PageValue.declareText name
  | noDate => "'NoneType' object has no attribute 'groupdict'"
  | noDigits => "string index out of range"
  | tooManyPlaces => "int too large to convert to float"
  | noText => "expected string or bytes-like object, got 'list'"

/-- The kind of failure that a fault is. -/
def Fault.kind : Fault → Text
  | malformed => "YAMLError"
  | outOfRange _ => "ValueError"
  | noCharacter code => if code < 0x80000000 then "ValueError" else "OverflowError"
  | noTruth _ => "KeyError"
  | noDate => "AttributeError"
  | noDigits => "IndexError"
  | tooManyPlaces => "OverflowError"
  | noText => "TypeError"

/-- The most digits that a decimal numeral may have. -/
def mostDigits : Nat := 4300

/-- The fault of a decimal numeral with more digits than that. -/
def tooLong (digits : Nat) : Fault :=
  .outOfRange ("Exceeds the limit (4300 digits) for integer string conversion: value has " ++
    Text.ofNat digits ++ " digits; use sys.set_int_max_str_digits() to increase the limit")

/-- The characters that end a line. -/
def isBreak (c : Char) : Bool :=
  c = '\n' || c = '\r' || c = '\u0085' || c = '\u2028' || c = '\u2029'

/-- What may follow a mark: a blank, a line end, or nothing. -/
def isGap : Option Char → Bool
  | none => true
  | some c => c = ' ' || c = '\t' || isBreak c

/-- The end of the line or of the text. -/
def isLineEnd : Option Char → Bool
  | none => true
  | some c => isBreak c

/-- Characters a YAML text may hold. -/
def isPrintable (c : Char) : Bool :=
  let n := c.toNat
  n = 0x09 || n = 0x0A || n = 0x0D || (0x20 ≤ n && n ≤ 0x7E) || n = 0x85 ||
    (0xA0 ≤ n && n ≤ 0xD7FF) || (0xE000 ≤ n && n ≤ 0xFFFD) || 0x10000 ≤ n

/-- A place where a key may have begun. -/
structure PossibleKey where
  /-- The bracket depth of the key. -/
  depth : Nat
  /-- How many tokens stand before it. -/
  place : Nat
  /-- Nothing but a key can stand there. -/
  required : Bool
  index : Nat
  line : Nat
  column : Nat

/-- What is left to scan, and what was found. -/
structure Scan where
  rest : Text
  index : Nat
  line : Nat
  column : Nat
  tokens : Array Token
  indent : Int
  /-- The indentations of the blocks around. -/
  indents : List Int
  /-- The depth of brackets. -/
  depth : Nat
  keyAllowed : Bool
  keys : List PossibleKey
  /-- How many of the tokens are complete, so that no later one can change them. -/
  ready : Nat

/-- A scanner that may refuse the text. What it found before is not lost then. -/
abbrev Scanner := ExceptT Fault (StateM Scan)

namespace Scanner

/-- The text has no tokens here. -/
def refuse {α : Type} : Scanner α := throw .malformed

/-- A character ahead, left in place. -/
def peek? (n : Nat) : Scanner (Option Char) := do return (← get).rest[n]?

/-- Adds a token. -/
def emit (t : Token) : Scanner Unit := modify fun s => { s with tokens := s.tokens.push t }

/-- Passes over one character. -/
def step : Scanner Unit := modify fun s =>
  match s.rest with
  | [] => s
  | c :: rest =>
      let s := { s with rest, index := s.index + 1 }
      if isBreak c && !(c = '\r' && rest.head? = some '\n') then
        { s with line := s.line + 1, column := 0 }
      else if c = '\uFEFF' then s
      else { s with column := s.column + 1 }

/-- Passes over some characters. -/
def skip : Nat → Scanner Unit
  | 0 => return
  | n + 1 => do step; skip n

/-- Takes the characters at the front that satisfy a condition. -/
def takeWhile (p : Char → Bool) : Scanner Text := do
  let t := (← get).rest.takeWhile p
  skip t.length
  return t

/-- Takes a line end: it counts as a line feed, but for the two separators of texts. -/
def takeBreak : Scanner Text := do
  match (← get).rest with
  | '\r' :: '\n' :: _ => skip 2; return ['\n']
  | c :: _ =>
      if c = '\u2028' ∨ c = '\u2029' then step; return [c]
      else if isBreak c then step; return ['\n']
      else return []
  | [] => return []

/-- Whether a mark of documents stands here. -/
def atSeparator : Scanner Bool := do
  let t := (← get).rest
  return (t.take 3 = "---".toList || t.take 3 = "...".toList) && isGap t[3]?

/-! ## Indentation and keys -/

/-- Closes the blocks that are indented deeper than a column. -/
def unwind (column : Int) : Scanner Unit := do
  if (← get).depth = 0 then go (← get).indents.length
where
  go : Nat → Scanner Unit
    | 0 => return
    | n + 1 => do
        let s ← get
        if column < s.indent then
          set { s with
            indent := s.indents.headD (-1)
            indents := s.indents.drop 1
            tokens := s.tokens.push .blockEnd }
          go n

/-- Opens a block at a column, if it is indented deeper than the one around. -/
def deepen (column : Nat) : Scanner Bool := do
  let s ← get
  if s.indent < column then
    set { s with indents := s.indent :: s.indents, indent := column }
    return true
  else return false

/-- Forgets the possible key of this depth; a required one must not be missed. -/
def dropKey : Scanner Unit := do
  let s ← get
  if s.keys.any fun k => k.depth = s.depth && k.required then refuse
  set { s with keys := s.keys.filter (·.depth ≠ s.depth) }

/-- Whether a possible key can be none any more: a key takes one line and no more than 1024
    characters. -/
def isStale (s : Scan) (k : PossibleKey) : Bool := k.line ≠ s.line || 1024 < s.index - k.index

/-- Forgets possible keys that can be none any more. -/
def dropStaleKeys : Scanner Unit := do
  let s ← get
  if s.keys.any fun k => isStale s k && k.required then refuse
  set { s with keys := s.keys.filter (¬ isStale s ·) }

/-- Counts the tokens that are complete: those before the first that may yet be a key. -/
def countReady : Scanner Unit := modify fun s =>
  let possible := s.keys.filter (¬ isStale s ·)
  { s with ready := possible.foldl (fun n k => min n k.place) s.tokens.size }

/-- Notes that a key may begin here. -/
def noteKey : Scanner Unit := do
  let s ← get
  if s.keyAllowed then
    dropKey
    let required := s.depth = 0 && s.indent = s.column
    modify fun s => { s with
      keys := ⟨s.depth, s.tokens.size, required, s.index, s.line, s.column⟩ :: s.keys }

/-- Says whether a simple key may begin here. -/
def allowKey (b : Bool) : Scanner Unit := modify fun s => { s with keyAllowed := b }

/-! ## Between tokens -/

/-- Passes over blanks, comments and line ends. -/
def toNext : Nat → Scanner Unit
  | 0 => return
  | n + 1 => do
      let _ ← takeWhile (· = ' ')
      if (← peek? 0) = some '#' then let _ ← takeWhile (¬ isBreak ·)
      let ended ← takeBreak
      if ended.isEmpty then return
      if (← get).depth = 0 then allowKey true
      toNext n

/-- The rest of a line behind a mark: blanks and a comment. -/
def endLine : Scanner Unit := do
  let _ ← takeWhile (· = ' ')
  if (← peek? 0) = some '#' then let _ ← takeWhile (¬ isBreak ·)
  unless isLineEnd (← peek? 0) do refuse
  let _ ← takeBreak

/-- A character of the name of an anchor or a handle. -/
def isNameChar (c : Char) : Bool := c.isAlphanum || c = '-' || c = '_'

/-- The characters of an address. -/
def isAddressChar (c : Char) : Bool :=
  c.isAlphanum || "-;/?:@&=+$,_.!~*'()[]%".toList.contains c

/-- A name between exclamation marks, or a lone one. -/
def takeHandle : Scanner Text := do
  unless (← peek? 0) = some '!' do refuse
  step
  if (← peek? 0) = some ' ' then return ['!']
  let name ← takeWhile isNameChar
  unless (← peek? 0) = some '!' do refuse
  step
  return '!' :: name ++ ['!']

/-- The text of an address: octets behind percent signs are written out, and those that stand
    together have to be a text. -/
def address? (octets : Octets) : Text → Option Text
  | '%' :: a :: b :: rest => do
      let high ← Text.hexValue? a
      let low ← Text.hexValue? b
      address? (octets ++ [UInt8.ofNat (high * 16 + low)]) rest
  | '%' :: _ => none
  | rest => do
      let written ← (Utf8.decode octets).toOption
      match rest with
      | [] => return written
      | c :: rest => return written ++ c :: (← address? [] rest)

/-- An address. -/
def takeAddress : Scanner Text := do
  let written ← takeWhile isAddressChar
  match address? [] written with
  | some address => if written.isEmpty then refuse else return address
  | none => refuse

/-- A part of a version. -/
def takeNumber : Scanner Nat := do
  let digits ← takeWhile Char.isDigit
  if digits.isEmpty then refuse
  if mostDigits < digits.length then throw (tooLong digits.length)
  return Text.digitsValue digits

/-- A directive, with the line it stands on. -/
def takeDirective : Scanner Token := do
  step
  let name ← takeWhile isNameChar
  if name.isEmpty then refuse
  let next ← peek? 0
  unless next = some ' ' || isLineEnd next do refuse
  if name = "YAML".toList then
    let _ ← takeWhile (· = ' ')
    let major ← takeNumber
    unless (← peek? 0) = some '.' do refuse
    step
    let _ ← takeNumber
    let next ← peek? 0
    unless next = some ' ' || isLineEnd next do refuse
    endLine
    return .version major
  else if name = "TAG".toList then
    let _ ← takeWhile (· = ' ')
    let handle ← takeHandle
    unless (← peek? 0) = some ' ' do refuse
    let _ ← takeWhile (· = ' ')
    let address ← takeAddress
    let next ← peek? 0
    unless next = some ' ' || isLineEnd next do refuse
    endLine
    return .tagShortcut handle address
  else
    let _ ← takeWhile (¬ isBreak ·)
    endLine
    return .directive

/-- The name behind a mark of anchors or aliases. -/
def takeName : Scanner Text := do
  step
  let name ← takeWhile isNameChar
  if name.isEmpty then refuse
  let next ← peek? 0
  unless isGap next || next.any "?:,]\x7d%@`".toList.contains do refuse
  return name

/-- A tag. -/
def takeTag : Scanner Token := do
  let next ← peek? 1
  let token ←
    if next = some '<' then
      skip 2
      let address ← takeAddress
      unless (← peek? 0) = some '>' do refuse
      step
      pure (Token.tag none address)
    else if isGap next then
      step
      pure (.tag none ['!'])
    else
      let word := (← get).rest.drop 1 |>.takeWhile fun c => c ≠ ' ' ∧ ¬ isBreak c
      let handle ← if word.contains '!' then takeHandle else do step; pure ['!']
      pure (.tag (some handle) (← takeAddress))
  let next ← peek? 0
  unless next = some ' ' || isLineEnd next do refuse
  return token

/-! ## Block scalars -/

/-- Indented lines: how the last line end and the blank lines behind it are kept. -/
inductive Chomp where
  | strip | clip | keep
  deriving DecidableEq

/-- The marks behind the sign of a block scalar: how it ends, and its indentation. -/
def takeBlockMarks : Scanner (Chomp × Option Nat) := do
  let chomp? : Scanner (Option Chomp) := do
    match ← peek? 0 with
    | some '+' => step; return some .keep
    | some '-' => step; return some .strip
    | _ => return none
  let indent? : Scanner (Option Nat) := do
    match ← peek? 0 with
    | some c =>
        if c.isDigit then
          if c = '0' then refuse
          step
          return some (c.toNat - '0'.toNat)
        else return none
    | none => return none
  let first ← chomp?
  let indent ← indent?
  let chomp ← match first with
    | some _ => pure first
    | none => if indent.isSome then chomp? else pure none
  let next ← peek? 0
  unless next = some ' ' || isLineEnd next do refuse
  return (chomp.getD .clip, indent)

/-- Blank lines in front of a line, and the deepest indentation among them. -/
def takeLeadingBreaks : Nat → Text → Nat → Scanner (Text × Nat)
  | 0, breaks, deepest => return (breaks, deepest)
  | n + 1, breaks, deepest => do
      match ← peek? 0 with
      | some c =>
          if c = ' ' then
            step
            takeLeadingBreaks n breaks (max deepest (← get).column)
          else if isBreak c then takeLeadingBreaks n (breaks ++ (← takeBreak)) deepest
          else return (breaks, deepest)
      | none => return (breaks, deepest)

/-- The blanks of a line, up to an indentation. -/
def takeIndent : Nat → Scanner Unit
  | 0 => return
  | n + 1 => do if (← peek? 0) = some ' ' then step; takeIndent n

/-- Blank lines in front of a line of the given indentation. -/
def takeBreaks (indent : Nat) : Nat → Scanner Text
  | 0 => return []
  | n + 1 => do
      takeIndent (indent - (← get).column)
      match ← peek? 0 with
      | some c => if isBreak c then return (← takeBreak) ++ (← takeBreaks indent n) else return []
      | none => return []

/-- The lines of a block scalar. A single line end between two lines that begin with no blank is
    folded to a blank. -/
def takeBlockLines (folded : Bool) (chomp : Chomp) (indent : Nat) : Nat → Text → Scanner Text
  | 0, _ => refuse
  | n + 1, breaks => do
      if (← get).column = indent && (← peek? 0).isSome then
        let isOpen (c : Option Char) : Bool := c ≠ some ' ' && c ≠ some '\t'
        let leading := isOpen (← peek? 0)
        let line ← takeWhile (¬ isBreak ·)
        let ended ← takeBreak
        let later ← takeBreaks indent ((← get).rest.length + 1)
        if (← get).column = indent && (← peek? 0).isSome then
          let between :=
            if folded && ended = ['\n'] && leading && isOpen (← peek? 0) then
              if later.isEmpty then [' '] else []
            else ended
          return breaks ++ line ++ between ++ (← takeBlockLines folded chomp indent n later)
        else
          return breaks ++ line ++ (if chomp = .strip then [] else ended) ++
            (if chomp = .keep then later else [])
      else return if chomp = .keep then breaks else []

/-- A block scalar. -/
def takeBlock (folded : Bool) : Scanner Text := do
  step
  let (chomp, increment) ← takeBlockMarks
  endLine
  let bound := (← get).rest.length + 1
  let least := (max 1 ((← get).indent + 1)).toNat
  match increment with
  | none =>
      let (breaks, deepest) ← takeLeadingBreaks bound [] 0
      takeBlockLines folded chomp (max least deepest) bound breaks
  | some n =>
      let indent := least + n - 1
      let breaks ← takeBreaks indent bound
      takeBlockLines folded chomp indent bound breaks

/-! ## Quoted scalars -/

/-- The characters that letters behind a backslash stand for. -/
def escapes : List (Char × Nat) :=
  [('0', 0), ('a', 7), ('b', 8), ('t', 9), ('\t', 9), ('n', 10), ('v', 11), ('f', 12), ('r', 13),
   ('e', 27), (' ', 32), ('"', 34), ('\\', 92), ('/', 47), ('N', 0x85), ('_', 0xA0), ('L', 0x2028),
   ('P', 0x2029)]

/-- The number of hexadecimal digits behind a letter behind a backslash. -/
def digitsAfter? (c : Char) : Option Nat :=
  if c = 'x' then some 2 else if c = 'u' then some 4 else if c = 'U' then some 8 else none

/-- Blank lines inside a quoted scalar. -/
def takeQuotedBreaks : Nat → Scanner Text
  | 0 => return []
  | n + 1 => do
      if ← atSeparator then refuse
      let _ ← takeWhile fun c => c = ' ' || c = '\t'
      match ← peek? 0 with
      | some c => if isBreak c then return (← takeBreak) ++ (← takeQuotedBreaks n) else return []
      | none => return []

/-- Blanks inside a quoted scalar: a line end is folded. -/
def takeQuotedBlanks (bound : Nat) : Scanner Text := do
  let blanks ← takeWhile fun c => c = ' ' || c = '\t'
  match ← peek? 0 with
  | none => refuse
  | some c =>
      if isBreak c then
        let ended ← takeBreak
        let breaks ← takeQuotedBreaks bound
        return (if ended ≠ ['\n'] then ended else if breaks.isEmpty then [' '] else []) ++ breaks
      else return blanks

/-- What a backslash and the text behind it stand for. -/
def takeEscape (bound : Nat) : Scanner Text := do
  step
  match ← peek? 0 with
  | none => refuse
  | some c =>
      match escapes.find? (·.1 = c), digitsAfter? c with
      | some (_, n), _ => step; return [Char.ofNat n]
      | none, some count =>
          step
          let digits := (← get).rest.take count
          match digits.mapM Text.hexValue? with
          | some values =>
              unless values.length = count do refuse
              skip count
              let code := values.foldl (fun n d => 16 * n + d) 0
              if 0x110000 ≤ code then throw (.noCharacter code)
              return [Char.ofNat code]
          | none => refuse
      | none, none =>
          if isBreak c then
            let _ ← takeBreak
            takeQuotedBreaks bound
          else refuse

/-- A quoted scalar behind its first quote. -/
def takeQuoted (quote : Char) : Nat → Scanner Text
  | 0 => refuse
  | n + 1 => do
      match ← peek? 0 with
      | none => refuse
      | some c =>
          let piece ←
            if c = '\'' ∧ quote = '\'' ∧ (← peek? 1) = some '\'' then do skip 2; pure ['\'']
            else if c = quote then step; return []
            else if c = '\\' ∧ quote = '"' then takeEscape n
            else if c = ' ' ∨ c = '\t' ∨ isBreak c then takeQuotedBlanks n
            else do step; pure [c]
          return piece ++ (← takeQuoted quote n)

/-! ## Plain scalars -/

/-- Whether a plain scalar ends before a character. -/
def endsPlain (inBrackets : Bool) (c : Char) (next : Option Char) : Bool :=
  isGap (some c) ||
    (c = ':' && (isGap next || (inBrackets && next.any ",[]\x7b\x7d".toList.contains))) ||
    (inBrackets && ",?[]\x7b\x7d".toList.contains c)

/-- The characters of a plain scalar up to a blank or a mark. -/
def plainRun (inBrackets : Bool) : Text → Text
  | [] => []
  | c :: rest => if endsPlain inBrackets c rest.head? then [] else c :: plainRun inBrackets rest

/-- Blank lines inside a plain scalar; none when a mark of documents ends it. -/
def takePlainBreaks : Nat → Scanner (Option Text)
  | 0 => return some []
  | n + 1 => do
      match ← peek? 0 with
      | some c =>
          if c = ' ' then step; takePlainBreaks n
          else if isBreak c then
            let ended ← takeBreak
            if ← atSeparator then return none
            return (← takePlainBreaks n).map (ended ++ ·)
          else return some []
      | none => return some []

/-- Blanks inside a plain scalar: a line end is folded, and a key may follow it. -/
def takePlainBlanks (bound : Nat) : Scanner Text := do
  let blanks ← takeWhile (· = ' ')
  match ← peek? 0 with
  | some c =>
      if isBreak c then
        let ended ← takeBreak
        allowKey true
        if ← atSeparator then return []
        match ← takePlainBreaks bound with
        | none => return []
        | some breaks =>
            if ended ≠ ['\n'] then return ended ++ breaks
            return if breaks.isEmpty then [' '] else breaks
      else return blanks
  | none => return blanks

/-- A plain scalar: it ends where a line is indented no deeper than the block around. -/
def takePlain : Nat → Text → Scanner Text
  | 0, _ => return []
  | n + 1, blanks => do
      if (← peek? 0) = some '#' then return []
      let s ← get
      let run := plainRun (s.depth ≠ 0) s.rest
      if run.isEmpty then return []
      allowKey false
      skip run.length
      let later ← takePlainBlanks n
      let s ← get
      if later.isEmpty || s.rest.head? = some '#' || (s.depth = 0 && s.column < s.indent + 1) then
        return blanks ++ run
      else return blanks ++ run ++ (← takePlain n later)

/-! ## Tokens -/

/-- A mark that ends everything open: directives and marks of documents. -/
def leaveBlocks : Scanner Unit := do
  unwind (-1)
  dropKey
  allowKey false

/-- A mark of a block: it opens the block it needs. -/
def openBlock (token : Token) : Scanner Unit := do
  let s ← get
  if s.depth = 0 then
    unless s.keyAllowed do refuse
    if ← deepen s.column then emit token

/-- The colon behind a key, or a value without a key. -/
def takeValue : Scanner Unit := do
  let s ← get
  match s.keys.find? (·.depth = s.depth) with
  | some k =>
      set { s with keys := s.keys.filter (·.depth ≠ s.depth) }
      let opens ← if s.depth = 0 then deepen k.column else pure false
      let marks := if opens then #[Token.blockMapping, .key] else #[.key]
      modify fun s => { s with
        tokens := s.tokens.extract 0 k.place ++ marks ++ s.tokens.extract k.place s.tokens.size
        keyAllowed := false }
  | none =>
      openBlock .blockMapping
      allowKey (s.depth = 0)
      dropKey
  step
  emit .value

/-- Whether a plain scalar may begin with a character. -/
def startsPlain (inBrackets : Bool) (c : Char) (next : Option Char) : Bool :=
  !(isGap (some c) || "-?:,[]\x7b\x7d#&*!|>'\"%@`".toList.contains c) ||
    (!isGap next && (c = '-' || (!inBrackets && (c = '?' || c = ':'))))

/-- One token and the marks that come with it. -/
def takeToken (c : Char) : Scanner Unit := do
  let s ← get
  let next := s.rest[1]?
  let free := s.depth = 0
  let bound := s.rest.length + 1
  let opens (t : Token) : Scanner Unit := do
    noteKey
    modify fun s => { s with depth := s.depth + 1, keyAllowed := true }
    step
    emit t
  let closes (t : Token) : Scanner Unit := do
    dropKey
    modify fun s => { s with depth := s.depth - 1, keyAllowed := false }
    step
    emit t
  if c = '%' ∧ s.column = 0 then leaveBlocks; emit (← takeDirective)
  else if s.column = 0 ∧ (← atSeparator) then
    leaveBlocks
    skip 3
    emit (if c = '-' then .documentStart else .documentEnd)
  else if c = '[' then opens .openSequence
  else if c = '\x7b' then opens .openMapping
  else if c = ']' then closes .closeSequence
  else if c = '\x7d' then closes .closeMapping
  else if c = ',' then
    allowKey true
    dropKey
    step
    emit .flowEntry
  else if c = '-' ∧ isGap next then
    openBlock .blockSequence
    allowKey true
    dropKey
    step
    emit .blockEntry
  else if c = '?' ∧ (¬ free ∨ isGap next) then
    openBlock .blockMapping
    allowKey free
    dropKey
    step
    emit .key
  else if c = ':' ∧ (¬ free ∨ isGap next) then takeValue
  else if c = '*' then
    noteKey
    allowKey false
    emit (.alias (← takeName))
  else if c = '&' then
    noteKey
    allowKey false
    emit (.anchor (← takeName))
  else if c = '!' then
    noteKey
    allowKey false
    emit (← takeTag)
  else if (c = '|' ∨ c = '>') ∧ free then
    allowKey true
    dropKey
    emit (.scalar (← takeBlock (c = '>')) false)
  else if c = '\'' ∨ c = '"' then
    noteKey
    allowKey false
    step
    emit (.scalar (← takeQuoted c bound) false)
  else if startsPlain (¬ free) c next then
    noteKey
    allowKey false
    emit (.scalar (← takePlain bound []) true)
  else refuse

/-- All tokens up to the end of the text. -/
def takeAll : Nat → Scanner Unit
  | 0 => refuse
  | n + 1 => do
      countReady
      toNext ((← get).rest.length + 1)
      dropStaleKeys
      unwind (← get).column
      match ← peek? 0 with
      | none => leaveBlocks
      | some c => takeToken c; takeAll n

end Scanner

/-- The tokens of a text. Where the text cannot be scanned any further, the tokens that are complete
    and the fault behind them. -/
def scan (t : Text) : List Token × Option Fault :=
  if ¬ t.all isPrintable then ([], some .malformed)
  else
    let t := if t.head? = some '\uFEFF' then t.drop 1 else t
    let start : Scan := ⟨t, 0, 0, 0, #[], -1, [], 0, true, [], 0⟩
    match (Scanner.takeAll (t.length + 2)).run.run start with
    | (.ok (), s) => (s.tokens.toList, none)
    | (.error fault, s) => (s.tokens.toList.take s.ready, some fault)

end Yaml
end PageLoom
