import PageLoom.Text.Basic

set_option autoImplicit false

/-! # Trees of scripts

The expressions, statements and functions of scripts. A function keeps the text it was written
with, because that text is what a page shows for it. -/

namespace PageLoom
namespace Script

/-- Operators in front of their operand. -/
inductive Unary where
  | not | plus | minus | typeOf
  deriving DecidableEq

/-- Operators between two values. -/
inductive Binary where
  | add | sub | mul | div | rem | pow
  | less | greater | lessEq | greaterEq
  | equal | notEqual | same | notSame
  | isMember
  deriving DecidableEq

/-- Operators that may leave their right operand alone. -/
inductive Choice where
  | both | either | present
  deriving DecidableEq

/-- How names are declared. -/
inductive Declarer where
  | variable | changeable | constant
  deriving DecidableEq

mutual

/-- An expression. -/
inductive Expr where
  | null
  | bool (b : Bool)
  | number (x : Float)
  | text (t : Text)
  | template (first : Text) (rest : List (Expr × Text))
  | name (t : Text)
  | this
  | array (items : List Item)
  | object (members : List Member)
  | function (f : Function)
  | unary (op : Unary) (a : Expr)
  | binary (op : Binary) (a b : Expr)
  | choice (op : Choice) (a b : Expr)
  | conditional (test yes no : Expr)
  | assign (target : Expr) (op : Option Binary) (value : Expr)
  /-- Adds `by` to the target; the value is the new one, or the old one if `after`. -/
  | bump (target : Expr) (up : Bool) (after : Bool)
  | call (callee : Expr) (arguments : List Item)
  | construct (callee : Expr) (arguments : List Item)
  | member (a : Expr) (name : Text)
  | index (a : Expr) (key : Expr)
  | sequence (a b : Expr)

/-- A place of an array or of an argument list. -/
inductive Item where
  | hole
  | one (e : Expr)
  | spread (e : Expr)

/-- A member of an object. -/
inductive Member where
  | named (name : Text) (value : Expr)
  | computed (key : Expr) (value : Expr)
  | spread (e : Expr)

/-- A function: an `arrow` takes its `this` from where it stands. -/
inductive Function where
  | mk (name : Text) (parameters : List Text) (body : List Stmt) (arrow strict : Bool)
      (source : Text)

/-- A statement. -/
inductive Stmt where
  | empty
  | expression (e : Expr)
  | declare (how : Declarer) (bindings : List (Text × Option Expr))
  | function (f : Function)
  | «return» (e : Option Expr)
  | cond (test : Expr) (yes : Stmt) (no : Option Stmt)
  | while (test : Expr) (body : Stmt)
  | for (start : Stmt) (test step : Option Expr) (body : Stmt)
  /-- The loop variable is declared anew in each round, or assigned to when `how` is absent. -/
  | forOf (how : Option Declarer) (target : Expr) (items : Expr) (body : Stmt)
  | block (body : List Stmt)
  | throw (e : Expr)
  | labelled (label : Text) (body : Stmt)
  | break (label : Option Text)
  | continue (label : Option Text)

end

instance : Inhabited Expr := ⟨.null⟩
instance : Inhabited Stmt := ⟨.empty⟩

namespace Function

def name : Function → Text | mk n _ _ _ _ _ => n
def parameters : Function → List Text | mk _ ps _ _ _ _ => ps
def body : Function → List Stmt | mk _ _ b _ _ _ => b
def isArrow : Function → Bool | mk _ _ _ a _ _ => a
def isStrict : Function → Bool | mk _ _ _ _ s _ => s
def source : Function → Text | mk _ _ _ _ _ t => t

end Function

/-- A whole script. -/
structure Program where
  body : List Stmt
  strict : Bool

/-! ## Declared names -/

mutual

/-- The names a statement declares for the whole function around it. -/
def Stmt.varNames : Stmt → List Text
  | .declare .variable bindings => bindings.map (·.1)
  | .cond _ yes no => yes.varNames ++ optVariables no
  | .while _ body | .labelled _ body => body.varNames
  | .for start _ _ body => start.varNames ++ body.varNames
  | .forOf how target _ body =>
      (match how, target with
        | some .variable, .name n => [n]
        | _, _ => []) ++ body.varNames
  | .block body => listVariables body
  | _ => []

/-- The names an optional statement declares for the whole function. -/
def optVariables : Option Stmt → List Text
  | none => []
  | some s => s.varNames

/-- The names some statements declare for the whole function. -/
def listVariables : List Stmt → List Text
  | [] => []
  | s :: rest => s.varNames ++ listVariables rest

end

mutual

/-- The names of functions declared in blocks inside a statement: they are seen in the whole
    function once their declaration is passed. -/
def Stmt.blockFunctions : Stmt → List Text
  | .cond _ yes no => yes.blockFunctions ++ optBlockFunctions no
  | .while _ body | .labelled _ body | .for _ _ _ body | .forOf _ _ _ body => body.blockFunctions
  | .block body => listFunctions body
  | _ => []

/-- The same for an optional statement. -/
def optBlockFunctions : Option Stmt → List Text
  | none => []
  | some s => s.blockFunctions

/-- The names of functions declared in some statements, and in blocks inside them. -/
def listFunctions : List Stmt → List Text
  | [] => []
  | .function f :: rest => f.name :: listFunctions rest
  | s :: rest => s.blockFunctions ++ listFunctions rest

end

/-- The names declared for a block only, and whether they may change. -/
def lexicals (body : List Stmt) : List (Text × Bool) :=
  body.flatMap fun s => match s with
    | .declare .changeable bindings => bindings.map fun b => (b.1, true)
    | .declare .constant bindings => bindings.map fun b => (b.1, false)
    | _ => []

/-- The functions declared directly in a block. -/
def functions (body : List Stmt) : List Function :=
  body.filterMap fun s => match s with
    | .function f => some f
    | _ => none

end Script
end PageLoom
