import PageLoom.Decimal.Notation
import PageLoom.Script.Token
import PageLoom.Script.Tree

set_option autoImplicit false

/-! # Reading scripts

A recursive reader over the tokens of a script. Every reading function takes a bound on its depth,
which `read?` sets higher than any script of that many tokens needs. A script that breaks a rule
of the grammar, or one of the rules about names (declared twice, assigned where nothing can be
assigned, a `return` outside of functions), is not read at all. -/

namespace PageLoom
namespace Script

/-- What the surroundings of a statement allow. -/
structure Place where
  source : Text
  inFunction : Bool
  inLoop : Bool
  labels : List Text
  strict : Bool
  /-- In the head of a loop, where `in` is no operator. -/
  inHead : Bool

/-- What is left to read, and where the last token ended. -/
structure Cursor where
  tokens : List Token
  lastStop : Nat

/-- A reader that may refuse the script. -/
abbrev Reader := ReaderT Place (StateT Cursor Option)

/-- Words that are no names. -/
def reservedWords : List Text :=
  ["break", "case", "catch", "class", "const", "continue", "debugger", "default", "delete", "do",
   "else", "enum", "export", "extends", "false", "finally", "for", "function", "if", "import", "in",
   "instanceof", "new", "null", "return", "super", "switch", "this", "throw", "true", "try",
   "typeof", "var", "void", "while", "with"].map String.toList

/-- Words that are no names in strict code. -/
def strictWords : List Text :=
  ["let", "static", "yield", "implements", "interface", "package", "private", "protected",
   "public"].map String.toList

namespace Token

/-- Whether a token is the given sign. -/
def isSign (s : String) (token : Token) : Bool :=
  match token.lexeme with
  | .sign t => t = s.toList
  | _ => false

/-- Whether a token is the given word. -/
def isWord (w : String) (token : Token) : Bool :=
  match token.lexeme with
  | .name t => t = w.toList
  | _ => false

/-- The name a token is, reserved words apart. -/
def freeName? (strict : Bool) (token : Token) : Option Text :=
  match token.lexeme with
  | .name t =>
      if reservedWords.contains t || (strict && strictWords.contains t) then none else some t
  | _ => none

end Token

namespace Reader

/-- The script is not well formed here. -/
def refuse {α : Type} : Reader α := fun _ _ => none

/-- The next token, left in place. -/
def peek? : Reader (Option Token) := do return (← get).tokens.head?

/-- Whether the next token is a sign. -/
def atSign (s : String) : Reader Bool := do return (← peek?).any (Token.isSign s)

/-- Whether the next token is a word. -/
def atWord (w : String) : Reader Bool := do return (← peek?).any (Token.isWord w)

/-- The next token, taken. -/
def take : Reader Token := do
  match (← get).tokens with
  | [] => refuse
  | token :: rest => set (⟨rest, token.stop⟩ : Cursor); return token

/-- Takes a sign if it comes next. -/
def accept (s : String) : Reader Bool := do
  if ← atSign s then let _ ← take; return true else return false

/-- Takes a word if it comes next. -/
def acceptWord (w : String) : Reader Bool := do
  if ← atWord w then let _ ← take; return true else return false

/-- Takes a sign that has to come next. -/
def expect (s : String) : Reader Unit := do
  unless ← accept s do refuse

/-- Whether a token is a name. -/
def isFree (strict : Bool) (token : Token) : Bool := (token.freeName? strict).isSome

/-- Takes a name that may be declared. -/
def freeName : Reader Text := do
  match (← take).freeName? (← read).strict with
  | some t => return t
  | none => refuse

/-- The end of a statement: a semicolon, or a place where one may be left out. -/
def endStatement : Reader Unit := do
  if ← accept ";" then return
  match ← peek? with
  | none => return
  | some token => unless token.isSign "\x7d" || token.lineBefore do refuse

/-- The source between an offset and the last token. -/
def sourceSince (start : Nat) : Reader Text := do
  return Text.slice (← read).source start (← get).lastStop

/-- Whether the next token stands on the line of the last one. -/
def onSameLine : Reader Bool := do
  return (← peek?).any fun token => !token.lineBefore

/-- Whether an expression names a place for a value. -/
def assignable : Expr → Bool
  | .name _ | .member .. | .index .. => true
  | _ => false

/-- Refuses an expression that no value can be assigned to. -/
def expectAssignable (e : Expr) : Reader Unit := unless assignable e do refuse

/-! ## Rules about names -/

/-- Whether no name occurs twice. -/
def distinct (names : List Text) : Bool := names.length = names.eraseDups.length

/-- Whether two lists share no name. -/
def disjoint (a b : List Text) : Bool := a.all (¬ b.contains ·)

/-- The names of a block may be declared only once; functions of one block may share a name. -/
def checkBlock (body : List Stmt) : Reader Unit := do
  let own := (lexicals body).map (·.1)
  let calls := (functions body).map Function.name
  let wide := listVariables body
  unless distinct own && disjoint own calls && disjoint own wide && disjoint calls wide do refuse

/-- The names of a loop's head that are new in each round: the body may not declare them for the
    whole function. -/
def checkLoop (how : Option Declarer) (names : List Text) (body : Stmt) : Reader Unit :=
  match how with
  | none | some .variable => pure ()
  | some _ => unless distinct names && disjoint names body.varNames do refuse

/-- The names of a function body, or of a script without parameters. -/
def checkBody (parameters : List Text) (body : List Stmt) : Reader Unit := do
  let own := (lexicals body).map (·.1)
  unless distinct own && disjoint own parameters && disjoint own (listVariables body) &&
      disjoint own ((functions body).map Function.name) do refuse

/-- Whether statements begin with the directive that makes them strict. -/
def startsStrict : List Token → Bool
  | ⟨.text t, start, stop, _⟩ :: rest =>
      (t = "use strict".toList && stop - start = 12 &&
        match rest with
        | [] => true
        | next :: _ => next.isSign ";" || next.isSign "\x7d" || next.lineBefore)
      || match rest with
        | next :: rest' =>
            if next.isSign ";" then startsStrict rest'
            else next.lineBefore && startsStrict (next :: rest')
        | [] => false
  | _ => false
termination_by tokens => tokens.length

/-! ## Operators -/

/-- The operators of each level of binding, loosest first. -/
def operatorsAt : Nat → List (String × Binary)
  | 0 => [("===", .same), ("!==", .notSame), ("==", .equal), ("!=", .notEqual)]
  | 1 => [("<", .less), (">", .greater), ("<=", .lessEq), (">=", .greaterEq)]
  | 2 => [("+", .add), ("-", .sub)]
  | 3 => [("*", .mul), ("/", .div), ("%", .rem)]
  | _ => []

/-- The operator of a level that stands next, taken. -/
def acceptOperator? (level : Nat) : Reader (Option Binary) := do
  match ← peek? with
  | none => return none
  | some token =>
      match (operatorsAt level).find? fun o => token.isSign o.1 with
      | some (_, op) => let _ ← take; return some op
      | none =>
          if level = 1 && token.isWord "in" && !(← read).inHead then
            let _ ← take
            return some .isMember
          else return none

/-- The operators that assign, and what they compute first. -/
def assignments : List (String × Option Binary) :=
  [("=", none), ("+=", some .add), ("-=", some .sub), ("*=", some .mul), ("/=", some .div),
   ("%=", some .rem), ("**=", some .pow)]

/-- The operators in front of an operand. -/
def unaryOf? (token : Token) : Option Unary :=
  if token.isSign "!" then some .not
  else if token.isSign "+" then some .plus
  else if token.isSign "-" then some .minus
  else if token.isWord "typeof" then some .typeOf
  else none

/-- The parameters of an arrow function, if one begins here. -/
def arrowParameters? (strict : Bool) (tokens : List Token) : Option (List Text) := do
  let (parameters, rest) ← match tokens with
    | first :: rest =>
        if first.isSign "(" then names rest
        else do
          let n ← first.freeName? strict
          pure ([n], rest)
    | [] => none
  match rest with
  | arrow :: _ => if arrow.isSign "=>" && !arrow.lineBefore then some parameters else none
  | [] => none
where
  names : List Token → Option (List Text × List Token)
    | [] => none
    | token :: rest =>
        if token.isSign ")" then some ([], rest)
        else do
          let n ← token.freeName? strict
          match rest with
          | next :: rest' =>
              if next.isSign ")" then some ([n], rest')
              else if next.isSign "," then (names rest').map fun (ns, r) => (n :: ns, r)
              else none
          | [] => none

/-- Takes the parameters of an arrow function and its arrow. -/
def takeArrow : Nat → Reader Unit
  | 0 => refuse
  | fuel + 1 => do if (← take).isSign "=>" then return else takeArrow fuel

/-! ## The grammar -/

/-- The label behind a jump: without one, the jump must stand in a loop. -/
def jump : Reader (Option Text) := do
  let strict := (← read).strict
  let next ← peek?
  match next.bind fun token => if token.lineBefore then none else token.freeName? strict with
  | some n =>
      unless (← read).labels.contains n do refuse
      let _ ← take
      endStatement
      return some n
  | none =>
      unless (← read).inLoop do refuse
      endStatement
      return none

mutual

/-- Expressions joined by commas. -/
def expression : Nat → Reader Expr
  | 0 => refuse
  | fuel + 1 => do sequenceRest fuel (← assignment fuel)

/-- Further expressions behind commas. -/
def sequenceRest : Nat → Expr → Reader Expr
  | 0, _ => refuse
  | fuel + 1, left => do
      if ← accept "," then sequenceRest fuel (.sequence left (← assignment fuel)) else return left

/-- An arrow function, an assignment or less. -/
def assignment : Nat → Reader Expr
  | 0 => refuse
  | fuel + 1 => do
      match arrowParameters? (← read).strict (← get).tokens with
      | some parameters => arrow fuel parameters
      | none =>
          let left ← conditional fuel
          match (← peek?).bind fun token => assignments.find? fun a => token.isSign a.1 with
          | none => return left
          | some (_, op) =>
              expectAssignable left
              let _ ← take
              return .assign left op (← assignment fuel)

/-- An arrow function with the given parameters. -/
def arrow : Nat → List Text → Reader Expr
  | 0, _ => refuse
  | fuel + 1, parameters => do
      let start := (← get).tokens.head?.elim 0 (·.start)
      takeArrow (2 * parameters.length + 4)
      unless distinct parameters do refuse
      if ← atSign "\x7b" then
        let (body, strict) ← functionBody fuel parameters
        return .function (.mk [] parameters body true strict (← sourceSince start))
      else
        let value ← assignment fuel
        return .function (.mk [] parameters [.return (some value)] true (← read).strict
          (← sourceSince start))

/-- A choice between two values by a test, or less. -/
def conditional : Nat → Reader Expr
  | 0 => refuse
  | fuel + 1 => do
      let test ← present fuel
      if ← accept "?" then
        let yes ← withReader (fun p => { p with inHead := false }) (assignment fuel)
        expect ":"
        return .conditional test yes (← assignment fuel)
      else return test

/-- Operands joined by `??`, which do not mix with the other choices. -/
def present : Nat → Reader Expr
  | 0 => refuse
  | fuel + 1 => do
      let grouped ← atSign "("
      let left ← either fuel
      if ← atSign "??" then
        match left with
        | .choice .. => unless grouped do refuse
        | _ => pure ()
      presentRest fuel left

/-- Further operands behind `??`. -/
def presentRest : Nat → Expr → Reader Expr
  | 0, _ => refuse
  | fuel + 1, left => do
      if ← accept "??" then presentRest fuel (.choice .present left (← binary fuel 0))
      else return left

/-- Operands joined by `||`. -/
def either : Nat → Reader Expr
  | 0 => refuse
  | fuel + 1 => do eitherRest fuel (← both fuel)

/-- Further operands behind `||`. -/
def eitherRest : Nat → Expr → Reader Expr
  | 0, _ => refuse
  | fuel + 1, left => do
      if ← accept "||" then eitherRest fuel (.choice .either left (← both fuel)) else return left

/-- Operands joined by `&&`. -/
def both : Nat → Reader Expr
  | 0 => refuse
  | fuel + 1 => do bothRest fuel (← binary fuel 0)

/-- Further operands behind `&&`. -/
def bothRest : Nat → Expr → Reader Expr
  | 0, _ => refuse
  | fuel + 1, left => do
      if ← accept "&&" then bothRest fuel (.choice .both left (← binary fuel 0)) else return left

/-- Operators of a level and of tighter ones. -/
def binary : Nat → Nat → Reader Expr
  | 0, _ => refuse
  | fuel + 1, level => do
      if 4 ≤ level then power fuel else binaryRest fuel level (← binary fuel (level + 1))

/-- Further operands behind operators that bind at least as tightly as the given level. -/
def binaryRest : Nat → Nat → Expr → Reader Expr
  | 0, _, _ => refuse
  | fuel + 1, level, left => do
      match ← acceptOperator? level with
      | some op => binaryRest fuel level (.binary op left (← binary fuel (level + 1)))
      | none => return left

/-- A power binds to the right, and its base has no operator in front. -/
def power : Nat → Reader Expr
  | 0 => refuse
  | fuel + 1 => do
      let plainBase := ((← peek?).bind unaryOf?).isNone
      let base ← unary fuel
      if ← atSign "**" then
        unless plainBase do refuse
        let _ ← take
        return .binary .pow base (← power fuel)
      else return base

/-- A value behind its signs, or less. -/
def unary : Nat → Reader Expr
  | 0 => refuse
  | fuel + 1 => do
      match (← peek?).bind unaryOf? with
      | some op => let _ ← take; return .unary op (← unary fuel)
      | none =>
          if ← accept "++" then bumped fuel true
          else if ← accept "--" then bumped fuel false
          else
            let operand ← chain fuel
            if (← atSign "++") && (← onSameLine) then
              expectAssignable operand
              let _ ← take
              return .bump operand true true
            else if (← atSign "--") && (← onSameLine) then
              expectAssignable operand
              let _ ← take
              return .bump operand false true
            else return operand

/-- A place behind `++` or `--`. -/
def bumped : Nat → Bool → Reader Expr
  | 0, _ => refuse
  | fuel + 1, up => do
      let target ← unary fuel
      expectAssignable target
      return .bump target up false

/-- A value with members and calls behind it. -/
def chain : Nat → Reader Expr
  | 0 => refuse
  | fuel + 1 => do
      if ← atWord "new" then chainRest fuel true (← construct fuel)
      else chainRest fuel true (← primary fuel)

/-- Members, keys and, where allowed, calls behind a value. -/
def chainRest : Nat → Bool → Expr → Reader Expr
  | 0, _, _ => refuse
  | fuel + 1, calls, left => do
      if ← accept "." then
        match (← take).lexeme with
        | .name n => chainRest fuel calls (.member left n)
        | _ => refuse
      else if ← accept "[" then
        let key ← withReader (fun p => { p with inHead := false }) (expression fuel)
        expect "]"
        chainRest fuel calls (.index left key)
      else if calls && (← atSign "(") then
        let _ ← take
        chainRest fuel calls (.call left (← items fuel ")" false))
      else return left

/-- A construction, from its keyword on. -/
def construct : Nat → Reader Expr
  | 0 => refuse
  | fuel + 1 => do
      let _ ← take
      let callee ← if ← atWord "new" then construct fuel else primary fuel
      let callee ← chainRest fuel false callee
      if ← accept "(" then return .construct callee (← items fuel ")" false)
      else return .construct callee []

/-- Items up to a closing sign; `holes` says whether an item may be missing. -/
def items : Nat → String → Bool → Reader (List Item)
  | 0, _, _ => refuse
  | fuel + 1, close, holes => do
      if ← accept close then return []
      if ← atSign "," then
        unless holes do refuse
        let _ ← take
        return .hole :: (← items fuel close holes)
      let spread ← accept "..."
      let e ← withReader (fun p => { p with inHead := false }) (assignment fuel)
      let item := if spread then Item.spread e else .one e
      if ← accept "," then return item :: (← items fuel close holes)
      expect close
      return [item]

/-- A literal, a name, a function or what stands in brackets. -/
def primary : Nat → Reader Expr
  | 0 => refuse
  | fuel + 1 => do
      let token ← take
      match token.lexeme with
      | .number x => return .number x
      | .text t => return .text t
      | .piece t true closes =>
          if closes then return .template t []
          else return .template t (← templateRest fuel)
      | .piece .. => refuse
      | .sign s =>
          match String.ofList s with
          | "(" =>
              let e ← withReader (fun p => { p with inHead := false }) (expression fuel)
              expect ")"
              return e
          | "[" => return .array (← items fuel "]" true)
          | "\x7b" => return .object (← members fuel)
          | _ => refuse
      | .name n =>
          match String.ofList n with
          | "null" => return .null
          | "true" => return .bool true
          | "false" => return .bool false
          | "this" => return .this
          | "function" => return .function (← functionRest fuel token.start false)
          | _ =>
              if (token.freeName? (← read).strict).isSome then return .name n else refuse

/-- The parts of a template behind its first text. -/
def templateRest : Nat → Reader (List (Expr × Text))
  | 0 => refuse
  | fuel + 1 => do
      let e ← withReader (fun p => { p with inHead := false }) (expression fuel)
      match (← take).lexeme with
      | .piece t false closes =>
          if closes then return [(e, t)] else return (e, t) :: (← templateRest fuel)
      | _ => refuse

/-- The members of an object up to its closing brace. -/
def members : Nat → Reader (List Member)
  | 0 => refuse
  | fuel + 1 => do
      if ← accept "\x7d" then return []
      let one ← withReader (fun p => { p with inHead := false }) (objectMember fuel)
      if ← accept "," then return one :: (← members fuel)
      expect "\x7d"
      return [one]

/-- One member of an object. -/
def objectMember : Nat → Reader Member
  | 0 => refuse
  | fuel + 1 => do
      if ← accept "..." then return .spread (← assignment fuel)
      let token ← take
      match token.lexeme with
      | .sign s =>
          unless s = "[".toList do refuse
          let key ← expression fuel
          expect "]"
          if ← atSign "(" then
            return .computed key (.function (← method fuel token.start))
          expect ":"
          return .computed key (← assignment fuel)
      | .piece .. => refuse
      | .text t => memberValue fuel token.start t
      | .number x => memberValue fuel token.start (Decimal.scriptNotation.write x)
      | .name n =>
          if (← atSign ",") || (← atSign "\x7d") then
            if (token.freeName? (← read).strict).isSome then return .named n (.name n) else refuse
          else memberValue fuel token.start n

/-- A member behind its name: a value, a function, or the name alone. -/
def memberValue : Nat → Nat → Text → Reader Member
  | 0, _, _ => refuse
  | fuel + 1, start, n => do
      if ← atSign "(" then return .named n (.function (← method fuel start))
      expect ":"
      return .named n (← assignment fuel)

/-- A function that is the member of an object. -/
def method : Nat → Nat → Reader Function
  | 0, _ => refuse
  | fuel + 1, start => do
      let parameters ← parameterList fuel
      let (body, strict) ← functionBody fuel parameters
      return .mk [] parameters body false strict (← sourceSince start)

/-- A function behind its keyword; a declaration needs a name. -/
def functionRest : Nat → Nat → Bool → Reader Function
  | 0, _, _ => refuse
  | fuel + 1, start, needsName => do
      let n ← if needsName || !(← atSign "(") then freeName else pure []
      let parameters ← parameterList fuel
      let (body, strict) ← functionBody fuel parameters
      return .mk n parameters body false strict (← sourceSince start)

/-- Parameters behind their opening bracket. -/
def parameterList : Nat → Reader (List Text)
  | 0 => refuse
  | fuel + 1 => do expect "("; parameterRest fuel

/-- Further parameters. -/
def parameterRest : Nat → Reader (List Text)
  | 0 => refuse
  | fuel + 1 => do
      if ← accept ")" then return []
      let n ← freeName
      if ← accept "," then return n :: (← parameterRest fuel)
      expect ")"
      return [n]

/-- The braced body of a function, and whether it is strict. -/
def functionBody : Nat → List Text → Reader (List Stmt × Bool)
  | 0, _ => refuse
  | fuel + 1, parameters => do
      expect "\x7b"
      let strict := (← read).strict || startsStrict (← get).tokens
      let body ← withReader
        (fun p =>
          { p with inFunction := true, inLoop := false, labels := [], strict, inHead := false })
        (statements fuel true)
      expect "\x7d"
      checkBody parameters body
      return (body, strict)

/-- Statements up to a closing brace, or to the end of the script. -/
def statements : Nat → Bool → Reader (List Stmt)
  | 0, _ => refuse
  | fuel + 1, braced => do
      match ← peek? with
      | none => return []
      | some token =>
          if braced && token.isSign "\x7d" then return []
          return (← statement fuel true) :: (← statements fuel braced)

/-- One statement; where `declarations` is unset, names of a block cannot be declared. -/
def statement : Nat → Bool → Reader Stmt
  | 0, _ => refuse
  | fuel + 1, declarations => do
      let tokens := (← get).tokens
      match tokens with
      | [] => refuse
      | token :: rest =>
          match token.lexeme with
          | .sign s =>
              if s = ";".toList then let _ ← take; return .empty
              else if token.isSign "\x7b" then return .block (← block fuel)
              else expressionStatement fuel
          | .name n =>
              match String.ofList n with
              | "var" => let _ ← take; declaration fuel .variable
              | "const" =>
                  unless declarations do refuse
                  let _ ← take
                  declaration fuel .constant
              | "let" =>
                  if rest.head?.any (isFree (← read).strict) then
                    unless declarations do refuse
                    let _ ← take
                    declaration fuel .changeable
                  else labelledOrExpression fuel rest
              | "function" =>
                  unless declarations do refuse
                  let _ ← take
                  return .function (← functionRest fuel token.start true)
              | "if" => let _ ← take; conditionalStatement fuel
              | "while" =>
                  let _ ← take
                  let test ← parenthesized fuel
                  return .while test (← loopBody fuel)
              | "for" => let _ ← take; expect "("; forHead fuel
              | "return" =>
                  unless (← read).inFunction do refuse
                  let _ ← take
                  if (← onSameLine) && !(← atSign ";") && !(← atSign "\x7d") then
                    let e ← expression fuel
                    endStatement
                    return .return (some e)
                  else endStatement; return .return none
              | "throw" =>
                  let _ ← take
                  unless ← onSameLine do refuse
                  let e ← expression fuel
                  endStatement
                  return .throw e
              | "break" => let _ ← take; return .break (← jump)
              | "continue" =>
                  unless (← read).inLoop do refuse
                  let _ ← take
                  return .continue (← jump)
              | _ => labelledOrExpression fuel rest
          | _ => expressionStatement fuel

/-- A statement that begins with a name: a label, or an expression. -/
def labelledOrExpression : Nat → List Token → Reader Stmt
  | 0, _ => refuse
  | fuel + 1, rest => do
      if rest.head?.any (Token.isSign ":") then
        let n ← freeName
        expect ":"
        if (← read).labels.contains n then refuse
        return .labelled n
          (← withReader (fun p => { p with labels := n :: p.labels }) (statement fuel false))
      else expressionStatement fuel

/-- An expression as a statement. -/
def expressionStatement : Nat → Reader Stmt
  | 0 => refuse
  | fuel + 1 => do
      let e ← expression fuel
      endStatement
      return .expression e

/-- A braced block, its names checked. -/
def block : Nat → Reader (List Stmt)
  | 0 => refuse
  | fuel + 1 => do
      expect "\x7b"
      let body ← statements fuel true
      expect "\x7d"
      checkBlock body
      return body

/-- An expression in brackets. -/
def parenthesized : Nat → Reader Expr
  | 0 => refuse
  | fuel + 1 => do
      expect "("
      let e ← expression fuel
      expect ")"
      return e

/-- The statement a condition governs; a lone function there stands in a block of its own. -/
def branch : Nat → Reader Stmt
  | 0 => refuse
  | fuel + 1 => do
      if (← atWord "function") && !(← read).strict then return .block [← statement fuel true]
      else statement fuel false

/-- A choice between statements, behind its keyword. -/
def conditionalStatement : Nat → Reader Stmt
  | 0 => refuse
  | fuel + 1 => do
      let test ← parenthesized fuel
      let yes ← branch fuel
      if ← acceptWord "else" then return .cond test yes (some (← branch fuel))
      else return .cond test yes none

/-- The body of a loop. -/
def loopBody : Nat → Reader Stmt
  | 0 => refuse
  | fuel + 1 => withReader (fun p => { p with inLoop := true }) (statement fuel false)

/-- A loop behind its opening parenthesis. -/
def forHead : Nat → Reader Stmt
  | 0 => refuse
  | fuel + 1 => do
      let how : Option Declarer ←
        if ← acceptWord "var" then pure (some .variable)
        else if ← acceptWord "const" then pure (some .constant)
        else if (← atWord "let") &&
            (← get).tokens[1]?.any (isFree true) then
          let _ ← take
          pure (some .changeable)
        else pure none
      match how with
      | some how =>
          let bindings ← withReader (fun p => { p with inHead := true }) (bindingList fuel)
          if ← acceptWord "of" then
            match bindings with
            | [(n, none)] => forOfRest fuel (some how) (.name n)
            | _ => refuse
          else
            expect ";"
            if how == .constant && bindings.any (·.2.isNone) then refuse
            forRest fuel (.declare how bindings)
      | none =>
          if ← accept ";" then forRest fuel .empty
          else
            let e ← withReader (fun p => { p with inHead := true }) (expression fuel)
            if ← acceptWord "of" then
              expectAssignable e
              forOfRest fuel none e
            else
              expect ";"
              forRest fuel (.expression e)

/-- A loop over items, behind the word that tells it. -/
def forOfRest : Nat → Option Declarer → Expr → Reader Stmt
  | 0, _, _ => refuse
  | fuel + 1, how, target => do
      let values ← assignment fuel
      expect ")"
      let body ← loopBody fuel
      checkLoop how (match target with | .name n => [n] | _ => []) body
      return .forOf how target values body

/-- A loop with a test and a step, behind its start. -/
def forRest : Nat → Stmt → Reader Stmt
  | 0, _ => refuse
  | fuel + 1, start => do
      let test ← if ← atSign ";" then pure none else some <$> expression fuel
      expect ";"
      let step ← if ← atSign ")" then pure none else some <$> expression fuel
      expect ")"
      let body ← loopBody fuel
      match start with
      | .declare how bindings => checkLoop (some how) (bindings.map (·.1)) body
      | _ => pure ()
      return .for start test step body

/-- The declared names behind a keyword, to the end of the statement. -/
def declaration : Nat → Declarer → Reader Stmt
  | 0, _ => refuse
  | fuel + 1, how => do
      let bindings ← bindingList fuel
      endStatement
      if how == .constant && bindings.any (·.2.isNone) then refuse
      return .declare how bindings

/-- Names with their first values. -/
def bindingList : Nat → Reader (List (Text × Option Expr))
  | 0 => refuse
  | fuel + 1 => do
      let n ← freeName
      if n = "let".toList then refuse
      let value ← if ← accept "=" then some <$> assignment fuel else pure none
      if ← accept "," then return (n, value) :: (← bindingList fuel) else return [(n, value)]

end

end Reader

/-- The program a text is, if it is one. -/
def read? (source : Text) : Option Program := do
  let tokens ← Token.scan? source
  let strict := Reader.startsStrict tokens
  let place : Place := ⟨source, false, false, [], strict, false⟩
  let (body, rest) ←
    (do
      let body ← Reader.statements (32 * (tokens.length + 2)) false
      Reader.checkBody [] body
      return body : Reader (List Stmt)) place |>.run ⟨tokens, 0⟩
  if rest.tokens.isEmpty then some ⟨body, strict⟩ else none

end Script
end PageLoom
