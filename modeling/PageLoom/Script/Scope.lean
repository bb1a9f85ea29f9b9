import PageLoom.Script.Member

set_option autoImplicit false

/-! # Names

Looking names up, assigning to them and declaring them. A name that no scope declares is a member
of the global object, where scripts that are not strict may add names by assigning to them. -/

namespace PageLoom
namespace Script
namespace Run

/-- The innermost scope that declares a name. -/
def scopeOf? (n : Text) : List Nat → Run (Option (Nat × Binding))
  | [] => return none
  | id :: rest => do
      match (← scope id).find? (·.1 = n) with
      | some (_, b) => return some (id, b)
      | none => scopeOf? n rest

/-- A scope with a new value for a name. -/
def rebind (n : Text) (v : Value) (s : Scope) : Scope :=
  s.map fun (k, b) => if k = n then (k, { b with value := some v }) else (k, b)

/-- The value of a name, if the name is known. -/
def readName? (frame : Frame) (n : Text) : Run (Option Value) := do
  match ← scopeOf? n frame.scopes with
  | some (_, ⟨some v, _⟩) => return some v
  | some (_, ⟨none, _⟩) => referenceError (n ++ " is not initialized")
  | none => lookUp? chainBound Place.global n

/-- The value of a name. -/
def readName (frame : Frame) (n : Text) : Run Value := do
  match ← readName? frame n with
  | some v => return v
  | none => referenceError ("'" ++ n ++ "' is not defined")

/-- Assigns to a name. -/
def writeName (frame : Frame) (n : Text) (v : Value) : Run Unit := do
  match ← scopeOf? n frame.scopes with
  | some (_, ⟨none, _⟩) => referenceError (n ++ " is not initialized")
  | some (id, ⟨some _, mutable⟩) =>
      if mutable then setScope id (rebind n v (← scope id))
      else typeError ("'" ++ n ++ "' is read-only")
  | none =>
      if frame.strict && !(← has Place.global n) then
        referenceError ("'" ++ n ++ "' is not defined")
      setOf frame.strict Place.global n v

/-- Gives a declared name its first value, in the innermost scope. -/
def initName (frame : Frame) (n : Text) (v : Value) : Run Unit := do
  match frame.scopes with
  | id :: _ => setScope id (rebind n v (← scope id))
  | [] => return

/-- Sets a variable of the function around, or a member of the global object. -/
def writeVariable (frame : Frame) (n : Text) (v : Value) : Run Unit := do
  match frame.varScope with
  | some id => setScope id (rebind n v (← scope id))
  | none => setOf frame.strict Place.global n v

/-- The frame with one more scope. -/
def inner (frame : Frame) (s : Scope) : Run Frame := do
  return { frame with scopes := (← allocScope s) :: frame.scopes }

/-- A closure over a frame. -/
def closure (frame : Frame) (f : Function) : Run Value :=
  Value.object <$> alloc ⟨.closure f frame, some Place.functionProto, []⟩

/-- The bindings of the names a block declares, still without values. -/
def blockScope (body : List Stmt) : Scope :=
  (lexicals body).map (fun (n, mutable) => (n, ⟨none, mutable⟩)) ++
    ((functions body).map Function.name).eraseDups.map fun n => (n, ⟨none, true⟩)

/-- What the head of a loop over items declares for each round: while the items are found, the name
    has no value yet. -/
def headScope : Option Declarer → Expr → Scope
  | some .changeable, .name n => [(n, ⟨none, true⟩)]
  | some .constant, .name n => [(n, ⟨none, false⟩)]
  | _, _ => []

/-- Enters a block: its names are declared, and its functions have their values. -/
def enterBlock (frame : Frame) (body : List Stmt) : Run Frame := do
  let s := blockScope body
  if s.isEmpty then return frame
  let frame ← inner frame s
  for f in functions body do initName frame f.name (← closure frame f)
  return frame

/-- Enters a function: parameters, variables, and the names of its body. -/
def enterFunction (frame : Frame) (f : Function) (self : Value) (arguments : List Value) :
    Run Frame := do
  let parameters : Scope := f.parameters.zipIdx.map fun (n, i) =>
    (n, ⟨some (arguments.getD i .undefined), true⟩)
  let own := (lexicals f.body).map (·.1)
  let wide := listVariables f.body ++ (functions f.body).map Function.name ++
    if f.isStrict then [] else (listFunctions f.body).filter (¬ own.contains ·)
  let vars : Scope := wide.eraseDups.filter (¬ f.parameters.contains ·) |>.map fun n =>
    (n, ⟨some .undefined, true⟩)
  let names : Scope := (lexicals f.body).map fun (n, mutable) => (n, ⟨none, mutable⟩)
  let id ← allocScope (parameters ++ vars ++ names)
  let self := if f.isArrow then frame.self
    else if f.isStrict || !self.isNullish then self
    else .object Place.global
  let frame : Frame := ⟨id :: frame.scopes, self, f.isStrict, some id⟩
  for g in functions f.body do initName frame g.name (← closure frame g)
  return frame

/-- The names a script may not declare: those declared for good before. -/
def refuses (program : Program) : Run Bool := do
  let top ← scope Place.topScope
  let known (n : Text) : Bool := top.any (·.1 = n)
  let global ← object Place.global
  let fixed (n : Text) : Bool := global.slots.any fun (k, s) => k = n && !s.configurable
  let wide := listVariables program.body ++ (functions program.body).map Function.name
  return wide.any known || (lexicals program.body).any fun (n, _) => known n || fixed n

/-- Declares a variable of scripts, which stays as it is if there is one. -/
def declareGlobal (n : Text) : Run Unit := do
  let o ← object Place.global
  unless o.slots.any (·.1 = n) do
    setObject Place.global { o with slots := o.slots ++ [(n, ⟨.undefined, true, true, false⟩)] }

/-- Declares the names of a script that is about to run. -/
def enterScript (program : Program) : Run Frame := do
  let frame : Frame := ⟨[Place.topScope], .object Place.global, program.strict, none⟩
  let own := (lexicals program.body).map (·.1)
  let top ← scope Place.topScope
  setScope Place.topScope
    (top ++ (lexicals program.body).map fun (n, mutable) => (n, ⟨none, mutable⟩))
  for f in functions program.body do
    let o ← object Place.global
    let v ← closure frame f
    setObject Place.global { o with slots := putSlot f.name ⟨v, true, true, false⟩ o.slots }
  for n in listVariables program.body do declareGlobal n
  unless program.strict do
    for n in listFunctions program.body do
      unless own.contains n || top.any (·.1 = n) do declareGlobal n
  return frame

end Run
end Script
end PageLoom
