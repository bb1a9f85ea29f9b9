import PageLoom.Highlight.Script

set_option autoImplicit false

/-! # Lexemes of markup

Outside of tags there are texts, entities, comments and directives; inside a tag there are
attributes with their values. What stands between the tags of a script is script. -/

namespace PageLoom
namespace Highlight
namespace Markup

/-- Where the lexer stands. -/
inductive State where
  | root
  | tag
  /-- After the `=` of an attribute. -/
  | value
  /-- Between the tags of a script. -/
  | script
  /-- Between the tags of a style sheet. -/
  | style
  deriving DecidableEq, Repr

/-- A character of a tag's name. -/
def inTagName (c : Char) : Bool := Text.isWord c || c = ':' || c = '.' || c = '-'

/-- A character of an attribute's name. -/
def inAttributeName (c : Char) : Bool := Text.isWord c || c = ':' || c = '-'

/-- How many blanks stand at the front. -/
def blanks (t : Text) : Nat := span Text.isBlank t

/-- A piece of one tint. -/
def piece (tint : Tint) (n : Nat) : Lexer Tint × Nat := (whole tint, n)

/-- The pieces of a closing tag with a name that a condition admits. -/
def closingTag? (nameLength : Text → Nat) (t : Text) : Option (List (Lexer Tint × Nat)) :=
  match t with
  | '<' :: t =>
      let a := blanks t
      match t.drop a with
      | '/' :: t =>
          let b := blanks t
          let t := t.drop b
          let n := nameLength t
          let c := blanks (t.drop n)
          if 0 < n ∧ (t.drop (n + c)).head? = some '>' then
            some [piece .plain (a + b + 2), piece .tag n, piece .plain (c + 1)]
          else none
      | _ => none
  | _ => none

/-- The length of a name, in any case, at the front. -/
def namedLength (name t : Text) : Nat :=
  if Text.asciiLower (t.take name.length) = name then name.length else 0

/-- The pieces of a tag that begins, and the states that follow it. -/
def openingTag? (outer : List State) : Text → Option (Cut State)
  | '<' :: t =>
      let a := blanks t
      let t := t.drop a
      let special (name : Text) (inner : State) : Option (Cut State) := do
        let n ← positive (namedLength name t)
        return ⟨[piece .plain (a + 1), piece .tag n, piece .plain (blanks (t.drop n))],
          .tag :: inner :: .root :: outer⟩
      special "script" .script <|> special "style" .style <|> do
        let n ← positive (span inTagName t)
        return ⟨[piece .plain (a + 1), piece .tag n], .tag :: .root :: outer⟩
  | _ => none

/-- The length of an entity. -/
def entity? : Text → Option Nat
  | '&' :: t =>
      let n := span (fun c => c ≠ ';' && !Text.isBlank c) t
      if t[n]? = some ';' then some (n + 2) else none
  | _ => none

/-- The length of what begins and ends with the given texts. -/
def between? (opening closing : Text) (t : Text) : Option Nat := do
  let n ← literal? opening t
  let m ← upTo? closing (t.drop n)
  return n + m

/-- A cut outside of tags. -/
def rootCut? (outer : List State) (t : Text) : Option (Cut State) :=
  let cut (tint : Tint) (n : Nat) : Cut State := .one tint n (.root :: outer)
  (positive (span (fun c => c ≠ '<' && c ≠ '&') t)).map (cut .plain) <|>
  (entity? t).map (cut .entity) <|>
  (between? "<![CDATA[" "]]>" t).map (cut .directive) <|>
  (between? "<!--" "-->" t).map (cut .comment) <|>
  (between? "<?" "?>" t).map (cut .directive) <|>
  (between? "<!" ">" t).map (cut .directive) <|>
  openingTag? outer t <|>
  (closingTag? (span inTagName) t).map (⟨·, .root :: outer⟩)

/-- A cut inside a tag. -/
def tagCut? (outer : List State) (t : Text) : Option (Cut State) :=
  (positive (blanks t)).map (fun n => .one .plain n (.tag :: outer)) <|>
  (do
    let n ← positive (span inAttributeName t)
    let m := blanks (t.drop n)
    match t.drop (n + m) with
    | '=' :: rest =>
        return ⟨[piece .attrName (n + m), piece .operator 1, piece .plain (blanks rest)],
          .value :: .tag :: outer⟩
    | _ => return .one .attrName n (.tag :: outer)) <|>
  (let n := if t.head? = some '/' then 1 else 0
   let m := n + blanks (t.drop n)
   if t[m]? = some '>' then some (.one .plain (m + 1) outer) else none)

/-- A cut at the value of an attribute. -/
def valueCut? (outer : List State) (t : Text) : Option (Cut State) :=
  (between? "\"" "\"" t).map (fun n => .one .string n outer) <|>
  (between? "'" "'" t).map (fun n => .one .string n outer) <|>
  (positive (span (fun c => c ≠ '>' && !Text.isBlank c) t)).map (fun n => .one .string n outer)

/-- The least position after the first character at which the closing tag of a name stands. -/
def beforeClosing? (name : Text) : Text → Option Nat
  | [] => none
  | _ :: rest =>
      if (closingTag? (namedLength name) rest).isSome then some 1
      else (beforeClosing? name rest).map (· + 1)

/-- A cut between the tags of a name. Without a closing tag, the content ends with its line. -/
def contentCut (name : Text) (content : Lexer Tint) (self : State) (outer : List State)
    (t : Text) : Cut State :=
  match closingTag? (namedLength name) t, beforeClosing? name t with
  | some pieces, _ => ⟨pieces, outer⟩
  | none, some n => ⟨[(content, n)], self :: outer⟩
  | none, none =>
      match upTo? "\n" (t.drop 1) with
      | some n => ⟨[(content, n + 1)], outer⟩
      | none => ⟨[(content, t.length)], outer⟩

/-- The rule of markup. -/
def rule : CutRule State
  | [], _, t => rootCut? [] t
  | .root :: outer, _, t => rootCut? outer t
  | .tag :: outer, _, t => tagCut? outer t
  | .value :: outer, _, t => valueCut? outer t
  | .script :: outer, _, t => some (contentCut "script" Script.lexer .script outer t)
  | .style :: outer, _, t => some (contentCut "style" (whole .plain) .style outer t)

/-- The lexer of markup. -/
def lexer : Lexer Tint := lexerOf rule [.root]

end Markup

/-- The lexer of templates with tints. -/
def tinted : Lexer Tint := template Markup.lexer Script.lexer .plain

end Highlight
end PageLoom
