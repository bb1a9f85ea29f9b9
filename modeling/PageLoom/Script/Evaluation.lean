import PageLoom.Script.BuiltIn
import PageLoom.Script.Scope

set_option autoImplicit false

/-! # Running scripts

Expressions have values, statements have outcomes. Every function here takes a bound on its depth
first; a run that reaches it counts as interrupted, as one that uses up its steps does. -/

namespace PageLoom
namespace Script

/-- How a statement ends. -/
inductive Outcome where
  | normal
  | broke (label : Option Text)
  | continued (label : Option Text)
  | returned (v : Value)

namespace Outcome

/-- Whether a loop with the given labels goes on after its body. -/
def goesOn (labels : List Text) : Outcome → Bool
  | .normal | .continued none => true
  | .continued (some l) => labels.contains l
  | _ => false

/-- What is left of an outcome behind the loop it ended. -/
def behindLoop : Outcome → Outcome
  | .broke none => .normal
  | o => o

/-- What is left of an outcome behind a labelled statement. -/
def behindLabel (label : Text) : Outcome → Outcome
  | .broke (some l) => if l = label then .normal else .broke (some l)
  | o => o

end Outcome

namespace Run

/-- Ends a run that takes too long. -/
def stop {α : Type} : Run α := throw .interrupted

/-- The text of a value as the host sees it: nothing is "null", and an object that cannot be
    converted shows its type. -/
def hostText (call : Caller) (v : Value) : Run Text := do
  if v.isNullish then return "null"
  match ← attempt (toText call v) with
  | .ok t => return t.takeWhile (· ≠ '\x00')
  | .error _ => BuiltIn.tagOf v

/-- A call of a function of the host. -/
def callHost (call : Caller) (action : HostAction) (name : Text) (arguments : List Value) :
    Run Value := do
  match action, arguments with
  | .importStylesheet, path :: _ => effect (.stylesheet (← hostText call path)); return .null
  | .importScript, path :: _ => effect (.script (← hostText call path)); return .null
  | .note returns, _ =>
      effect (.call name (← arguments.mapM (hostText call)))
      return returns
  | _, _ => return .null

/-- Notes the value of an expression statement. -/
def setLast (v : Value) : Run Unit := modify fun w => { w with last := v }

/-- The value of an operator in front of its operand. -/
def unary (call : Caller) (op : Unary) (v : Value) : Run Value := do
  match op with
  | .not => return .bool !v.truthy
  | .plus => .number <$> toNumber call v
  | .minus => return .number (-(← toNumber call v))
  | .typeOf => .text <$> typeOf v

/-- A member name given by a value. -/
def toKey (call : Caller) (v : Value) : Run Text := toText call v

/-- Whether a choice is settled by its left operand. -/
def settled (op : Choice) (v : Value) : Bool :=
  match op with
  | .both => !v.truthy
  | .either => v.truthy
  | .present => !v.isNullish

/-- Adds the members of a value to an object. -/
def spreadInto (id : Nat) (v : Value) : Run Unit := do
  for (key, value) in ← listedOf v do setOf true id key value

/-- A fresh copy of the scope of a loop's names, for its next round. -/
def renew (frame : Frame) : Run Frame := do
  match frame.scopes with
  | id :: rest => return { frame with scopes := (← allocScope (← scope id)) :: rest }
  | [] => return frame

mutual

/-- The value of an expression. -/
def eval : Nat → Frame → Expr → Run Value
  | 0, _, _ => stop
  | fuel + 1, frame, e => do
      match e with
      | .null => return .null
      | .bool b => return .bool b
      | .number x => return .number x
      | .text t => return .text t
      | .template first rest =>
          .text <$> (do joinTexts (first :: (← evalTemplate fuel frame rest)) [])
      | .name n => readName frame n
      | .this => return frame.self
      | .array items => allocArray (← evalItems fuel frame items).toArray
      | .object members =>
          let id ← allocPlain
          evalMembers fuel frame id members
          return .object id
      | .function f =>
          if f.isArrow || f.name.isEmpty then closure frame f
          else
            let frame ← inner frame [(f.name, ⟨none, false⟩)]
            let v ← closure frame f
            initName frame f.name v
            return v
      | .unary .typeOf (.name n) => .text <$> typeOf ((← readName? frame n).getD .undefined)
      | .unary op a => unary (callValue fuel) op (← eval fuel frame a)
      | .binary op a b =>
          let x ← eval fuel frame a
          let y ← eval fuel frame b
          binary (callValue fuel) op x y
      | .choice op a b =>
          let x ← eval fuel frame a
          if settled op x then return x else eval fuel frame b
      | .conditional test yes no =>
          if (← eval fuel frame test).truthy then eval fuel frame yes else eval fuel frame no
      | .assign target op value => evalAssign fuel frame target op value
      | .bump target up after => evalBump fuel frame target up after
      | .call callee arguments =>
          match callee with
          | .member a n =>
              let self ← eval fuel frame a
              let f ← getMember self n
              let values ← evalItems fuel frame arguments
              callValue fuel f self (values.map (·.getD .undefined))
          | .index a key =>
              let self ← eval fuel frame a
              let k ← eval fuel frame key
              let f ← getMember self (← toKey (callValue fuel) k)
              let values ← evalItems fuel frame arguments
              callValue fuel f self (values.map (·.getD .undefined))
          | callee =>
              let f ← eval fuel frame callee
              let values ← evalItems fuel frame arguments
              callValue fuel f .undefined (values.map (·.getD .undefined))
      | .construct callee arguments =>
          let f ← eval fuel frame callee
          let values ← evalItems fuel frame arguments
          construct fuel f (values.map (·.getD .undefined))
      | .member a n => getMember (← eval fuel frame a) n
      | .index a key =>
          let v ← eval fuel frame a
          let k ← eval fuel frame key
          getMember v (← toKey (callValue fuel) k)
      | .sequence a b => let _ ← eval fuel frame a; eval fuel frame b

/-- The texts behind the first piece of a template text. -/
def evalTemplate : Nat → Frame → List (Expr × Text) → Run (List Text)
  | 0, _, _ => stop
  | _, _, [] => return []
  | fuel + 1, frame, (e, piece) :: rest => do
      let t ← toText (callValue fuel) (← eval fuel frame e)
      return t :: piece :: (← evalTemplate fuel frame rest)

/-- The values of items; holes have none. -/
def evalItems : Nat → Frame → List Item → Run (List (Option Value))
  | 0, _, _ => stop
  | _, _, [] => return []
  | fuel + 1, frame, item :: rest => do
      let values ← match item with
        | .hole => pure [none]
        | .one e => do pure [some (← eval fuel frame e)]
        | .spread e => do pure ((← elements (← eval fuel frame e)).map some)
      return values ++ (← evalItems fuel frame rest)

/-- Fills an object. -/
def evalMembers : Nat → Frame → Nat → List Member → Run Unit
  | 0, _, _, _ => stop
  | _, _, _, [] => return
  | fuel + 1, frame, id, m :: rest => do
      match m with
      | .named n e => setOf true id n (← eval fuel frame e)
      | .computed key e =>
          let k ← eval fuel frame key
          setOf true id (← toKey (callValue fuel) k) (← eval fuel frame e)
      | .spread e => spreadInto id (← eval fuel frame e)
      evalMembers fuel frame id rest

/-- An assignment, which may compute with the old value first. -/
def evalAssign : Nat → Frame → Expr → Option Binary → Expr → Run Value
  | 0, _, _, _, _ => stop
  | fuel + 1, frame, target, op, value => do
      let result (old : Run Value) : Run Value := do
        match op with
        | none => eval fuel frame value
        | some op =>
            let x ← old
            let y ← eval fuel frame value
            binary (callValue fuel) op x y
      match target with
      | .name n =>
          let v ← result (readName frame n)
          writeName frame n v
          return v
      | .member a n =>
          let o ← eval fuel frame a
          let v ← result (getMember o n)
          putMember frame.strict o n v
          return v
      | .index a key =>
          let o ← eval fuel frame a
          let k ← eval fuel frame key
          let k ← toKey (callValue fuel) k
          let v ← result (getMember o k)
          putMember frame.strict o k v
          return v
      | _ => stop

/-- Adds one to a target, or takes one off. -/
def evalBump : Nat → Frame → Expr → Bool → Bool → Run Value
  | 0, _, _, _, _ => stop
  | fuel + 1, frame, target, up, after => do
      let changed (v : Value) : Run (Float × Float) := do
        let x ← toNumber (callValue fuel) v
        return (x, if up then x + 1 else x - 1)
      match target with
      | .name n =>
          let (x, y) ← changed (← readName frame n)
          writeName frame n (.number y)
          return .number (if after then x else y)
      | .member a n =>
          let o ← eval fuel frame a
          let (x, y) ← changed (← getMember o n)
          putMember frame.strict o n (.number y)
          return .number (if after then x else y)
      | .index a key =>
          let o ← eval fuel frame a
          let k ← eval fuel frame key
          let k ← toKey (callValue fuel) k
          let (x, y) ← changed (← getMember o k)
          putMember frame.strict o k (.number y)
          return .number (if after then x else y)
      | _ => stop

/-- A call. -/
def callValue : Nat → Value → Value → List Value → Run Value
  | 0, _, _, _ => stop
  | fuel + 1, f, self, arguments => do
      tick
      match f with
      | .object id =>
          match (← object id).kind with
          | .closure f frame => deeper (callClosure fuel f frame self arguments)
          | .builtIn b _ => deeper (BuiltIn.run (callValue fuel) b self arguments)
          | .host action name => deeper (callHost (callValue fuel) action name arguments)
          | _ => typeError "not a function"
      | _ => typeError "not a function"

/-- A call of a function that a script wrote. The value of the last statement of the script around
    stays what it was. -/
def callClosure : Nat → Function → Frame → Value → List Value → Run Value
  | 0, _, _, _, _ => stop
  | fuel + 1, f, frame, self, arguments => do
      let last := (← getThe World).last
      let frame ← enterFunction frame f self arguments
      let outcome ← execList fuel frame f.body
      setLast last
      match outcome with
      | .returned v => return v
      | _ => return .undefined

/-- A new object made by a function. -/
def construct : Nat → Value → List Value → Run Value
  | 0, _, _ => stop
  | fuel + 1, f, arguments => do
      match f with
      | .object id =>
          match (← object id).kind with
          | .closure g frame =>
              if g.isArrow then typeError "not a constructor"
              let self := Value.object (← allocPlain)
              match ← deeper (callClosure fuel g frame self arguments) with
              | .object made => return .object made
              | _ => return self
          | .builtIn b _ =>
              match b with
              | .stringOf | .numberOf | .booleanOf | .objectOf | .arrayOf | .errorOf _ =>
                  BuiltIn.run (callValue fuel) b .undefined arguments
              | _ => typeError "not a constructor"
          | .host .. => typeError "not a constructor"
          | _ => typeError "not a function"
      | _ => typeError "not a function"

/-- Statements one after the other. -/
def execList : Nat → Frame → List Stmt → Run Outcome
  | 0, _, _ => stop
  | _, _, [] => return .normal
  | fuel + 1, frame, s :: rest => do
      match ← exec fuel frame [] s with
      | .normal => execList fuel frame rest
      | outcome => return outcome

/-- One statement; `labels` are the labels right in front of it. -/
def exec : Nat → Frame → List Text → Stmt → Run Outcome
  | 0, _, _, _ => stop
  | fuel + 1, frame, labels, s => do
      tick
      match s with
      | .empty => return .normal
      | .expression e => setLast (← eval fuel frame e); return .normal
      | .declare how bindings => declareAll fuel frame how bindings; return .normal
      | .function f =>
          unless frame.strict do
            match ← readName? frame f.name with
            | some v => writeVariable frame f.name v
            | none => return .normal
          return .normal
      | .return none => return .returned .undefined
      | .return (some e) => return .returned (← eval fuel frame e)
      | .cond test yes no =>
          setLast .undefined
          if (← eval fuel frame test).truthy then exec fuel frame [] yes
          else match no with
            | some no => exec fuel frame [] no
            | none => return .normal
      | .while test body =>
          setLast .undefined
          return (← loop fuel frame labels (some test) none body).behindLoop
      | .for start test step body =>
          setLast .undefined
          execFor fuel frame labels start test step body
      | .forOf how target values body =>
          setLast .undefined
          let v ← eval fuel (← match headScope how target with
            | [] => pure frame
            | names => inner frame names) values
          return (← loopOver fuel frame labels how target body v 0).behindLoop
      | .block body => execList fuel (← enterBlock frame body) body
      | .throw e => throw (.thrown (← eval fuel frame e))
      | .labelled label body => return (← exec fuel frame (label :: labels) body).behindLabel label
      | .break label => return .broke label
      | .continue label => return .continued label

/-- Gives declared names their values. -/
def declareAll : Nat → Frame → Declarer → List (Text × Option Expr) → Run Unit
  | 0, _, _, _ => stop
  | _, _, _, [] => return
  | fuel + 1, frame, how, (n, e) :: rest => do
      match how, e with
      | .variable, none => pure ()
      | .variable, some e => writeName frame n (← eval fuel frame e)
      | _, none => initName frame n .undefined
      | _, some e => initName frame n (← eval fuel frame e)
      declareAll fuel frame how rest

/-- A loop with a counter: names declared in its head are new in each round. -/
def execFor : Nat → Frame → List Text → Stmt → Option Expr → Option Expr → Stmt → Run Outcome
  | 0, _, _, _, _, _, _ => stop
  | fuel + 1, frame, labels, start, test, step, body => do
      let last := (← getThe World).last
      let frame ← match blockScope [start] with
        | [] => pure frame
        | names => inner frame names
      match start with
      | .expression e => let _ ← eval fuel frame e
      | .declare how bindings => declareAll fuel frame how bindings
      | _ => pure ()
      setLast last
      if (blockScope [start]).isEmpty then
        return (← loop fuel frame labels test step body).behindLoop
      else return (← loopFresh fuel (← renew frame) labels test step body).behindLoop

/-- Rounds of a loop that declares nothing. -/
def loop : Nat → Frame → List Text → Option Expr → Option Expr → Stmt → Run Outcome
  | 0, _, _, _, _, _ => stop
  | fuel + 1, frame, labels, test, step, body => do
      tick
      let go ← match test with
        | some e => do pure (← eval fuel frame e).truthy
        | none => pure true
      if !go then return .normal
      let outcome ← exec fuel frame [] body
      if outcome.goesOn labels then
        match step with
        | some e => let _ ← eval fuel frame e
        | none => pure ()
        loop fuel frame labels test step body
      else return outcome

/-- Rounds of a loop with names of its own. -/
def loopFresh : Nat → Frame → List Text → Option Expr → Option Expr → Stmt → Run Outcome
  | 0, _, _, _, _, _ => stop
  | fuel + 1, frame, labels, test, step, body => do
      tick
      let go ← match test with
        | some e => do pure (← eval fuel frame e).truthy
        | none => pure true
      if !go then return .normal
      let outcome ← exec fuel frame [] body
      if outcome.goesOn labels then
        let frame ← renew frame
        match step with
        | some e => let _ ← eval fuel frame e
        | none => pure ()
        loopFresh fuel frame labels test step body
      else return outcome

/-- Rounds of a loop over the items of a value, from the given one on. -/
def loopOver : Nat → Frame → List Text → Option Declarer → Expr → Stmt → Value → Nat →
    Run Outcome
  | 0, _, _, _, _, _, _, _ => stop
  | fuel + 1, frame, labels, how, target, body, values, i => do
      tick
      match (← elements values)[i]? with
      | none => return .normal
      | some v =>
          let round ← match how, target with
            | some .variable, .name n => do writeName frame n v; pure frame
            | some how, .name n => inner frame [(n, ⟨some v, how == .changeable⟩)]
            | _, .name n => do writeName frame n v; pure frame
            | _, .member a n => do
                putMember frame.strict (← eval fuel frame a) n v
                pure frame
            | _, .index a key => do
                let o ← eval fuel frame a
                let k ← eval fuel frame key
                putMember frame.strict o (← toKey (callValue fuel) k) v
                pure frame
            | _, _ => pure frame
          let outcome ← exec fuel round [] body
          if outcome.goesOn labels then loopOver fuel frame labels how target body values (i + 1)
          else return outcome

end

end Run
end Script
end PageLoom
