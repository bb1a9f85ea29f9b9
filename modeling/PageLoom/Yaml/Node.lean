import PageLoom.Yaml.Token

set_option autoImplicit false

/-! # Nodes of YAML

The tree that the tokens of a text write: scalars, sequences and mappings, each with the tag it was
given. An alias stands for the node it names. A text holds at most one document. -/

namespace PageLoom
namespace Yaml

/-- A node. -/
inductive Node where
  /-- A scalar; a plain one may stand for something else than a text. -/
  | scalar (t : Text) (plain : Bool) (tag : Option Text)
  | sequence (items : List Node) (tag : Option Text)
  | mapping (entries : List (Node × Node)) (tag : Option Text)
  deriving Inhabited

/-- What is left of the tokens, and the nodes with a name. -/
structure Compose where
  tokens : List Token
  /-- Why no more tokens can be had behind these. -/
  fault : Option Fault
  anchors : List (Text × Node)
  /-- What the handles of tags stand for. -/
  shortcuts : List (Text × Text)

/-- A composer that may refuse the text. -/
abbrev Composer := StateT Compose (Except Fault)

namespace Composer

/-- The tokens form no document here. -/
def refuse {α : Type} : Composer α := throw .malformed

/-- The next token, left in place. -/
def peek? : Composer (Option Token) := do
  let s ← get
  match s.tokens, s.fault with
  | t :: _, _ => return some t
  | [], some fault => throw fault
  | [], none => return none

/-- Passes the next token. -/
def drop : Composer Unit := modify fun s => { s with tokens := s.tokens.drop 1 }

/-- Whether the next token is one of some. -/
def at? (ts : List Token) : Composer Bool := do return (← peek?).any ts.contains

/-- Takes the next token if it is the given one. -/
def accept (t : Token) : Composer Bool := do
  if ← at? [t] then drop; return true else return false

/-- Nothing where a node may stand. -/
def nothing : Node := .scalar [] true none

/-- The name and the tag in front of a node, in either order. -/
def properties : Composer (Option Text × Option (Option Text × Text)) := do
  let anchor? : Composer (Option Text) := do
    match ← peek? with
    | some (.anchor n) => drop; return some n
    | _ => return none
  let tag? : Composer (Option (Option Text × Text)) := do
    match ← peek? with
    | some (.tag h s) => drop; return some (h, s)
    | _ => return none
  match ← anchor? with
  | some n => return (some n, ← tag?)
  | none =>
      match ← tag? with
      | some t => return (← anchor?, some t)
      | none => return (none, none)

/-- The whole tag: a handle stands for the address it was given. -/
def wholeTag : Option (Option Text × Text) → Composer (Option Text)
  | none => return none
  | some (none, suffix) => return some suffix
  | some (some handle, suffix) => do
      match (← get).shortcuts.find? (·.1 = handle) with
      | some (_, address) => return some (address ++ suffix)
      | none => refuse

mutual

/-- A node. `block` admits blocks; `loose` admits the entries of a sequence that are not indented
    deeper than their key. -/
def node : Nat → Bool → Bool → Composer Node
  | 0, _, _ => refuse
  | fuel + 1, block, loose => do
      match ← peek? with
      | some (.alias n) =>
          drop
          match (← get).anchors.find? (·.1 = n) with
          | some (_, found) => return found
          | none => refuse
      | _ =>
          let (anchor, tag) ← properties
          let tag ← wholeTag tag
          if let some n := anchor then
            let _ ← peek?
            if (← get).anchors.any (·.1 = n) then refuse
            modify fun s => { s with anchors := (n, .sequence [] tag) :: s.anchors }
          let made ← content fuel block loose (anchor.isSome || tag.isSome) tag
          if let some n := anchor then
            modify fun s => { s with anchors := (n, made) :: s.anchors }
          return made

/-- What stands behind the properties of a node; `given` says whether there are any. -/
def content : Nat → Bool → Bool → Bool → Option Text → Composer Node
  | 0, _, _, _, _ => refuse
  | fuel + 1, block, loose, given, tag => do
      match ← peek? with
      | some .blockEntry =>
          if loose then return .sequence (← looseEntries fuel) tag
          else if given then return .scalar [] true tag
          else refuse
      | some (.scalar t plain) => drop; return .scalar t plain tag
      | some .openSequence => drop; return .sequence (← flowItems fuel true) tag
      | some .openMapping => drop; return .mapping (← flowEntries fuel true) tag
      | some .blockSequence =>
          if block then drop; return .sequence (← entries fuel) tag
          else if given then return .scalar [] true tag
          else refuse
      | some .blockMapping =>
          if block then drop; return .mapping (← pairs fuel) tag
          else if given then return .scalar [] true tag
          else refuse
      | _ => if given then return .scalar [] true tag else refuse

/-- The entries of a block sequence. -/
def entries : Nat → Composer (List Node)
  | 0 => refuse
  | fuel + 1 => do
      if ← accept .blockEntry then
        let item ← if ← at? [.blockEntry, .blockEnd] then pure nothing else node fuel true false
        return item :: (← entries fuel)
      else if ← accept .blockEnd then return []
      else refuse

/-- The entries of a sequence without a block of its own. -/
def looseEntries : Nat → Composer (List Node)
  | 0 => refuse
  | fuel + 1 => do
      if ← accept .blockEntry then
        let item ← if ← at? [.blockEntry, .key, .value, .blockEnd] then pure nothing
          else node fuel true false
        return item :: (← looseEntries fuel)
      else return []

/-- A key or a value of a block mapping. -/
def part : Nat → Composer Node
  | 0 => refuse
  | fuel + 1 => do
      if ← at? [.key, .value, .blockEnd] then return nothing else node fuel true true

/-- The entries of a block mapping. -/
def pairs : Nat → Composer (List (Node × Node))
  | 0 => refuse
  | fuel + 1 => do
      if ← accept .blockEnd then return []
      unless ← accept .key do refuse
      let k ← part fuel
      let v ← if ← accept .value then part fuel else pure nothing
      return (k, v) :: (← pairs fuel)

/-- The items of a sequence in brackets. A key there begins a mapping of one entry. -/
def flowItems : Nat → Bool → Composer (List Node)
  | 0, _ => refuse
  | fuel + 1, first => do
      if ← accept .closeSequence then return []
      unless first do
        unless ← accept .flowEntry do refuse
        if ← accept .closeSequence then return []
      let item ←
        if ← accept .key then
          let k ← if ← at? [.value, .flowEntry, .closeSequence] then pure nothing
            else node fuel false false
          let v ← if ← accept .value then
              if ← at? [.flowEntry, .closeSequence] then pure nothing else node fuel false false
            else pure nothing
          pure (.mapping [(k, v)] none)
        else node fuel false false
      return item :: (← flowItems fuel false)

/-- The entries of a mapping in braces. -/
def flowEntries : Nat → Bool → Composer (List (Node × Node))
  | 0, _ => refuse
  | fuel + 1, first => do
      if ← accept .closeMapping then return []
      unless first do
        unless ← accept .flowEntry do refuse
        if ← accept .closeMapping then return []
      if ← accept .key then
        let k ← if ← at? [.value, .flowEntry, .closeMapping] then pure nothing
          else node fuel false false
        let v ← if ← accept .value then
            if ← at? [.flowEntry, .closeMapping] then pure nothing else node fuel false false
          else pure nothing
        return (k, v) :: (← flowEntries fuel false)
      else
        let k ← node fuel false false
        return (k, nothing) :: (← flowEntries fuel false)

end

/-- The handles every document knows. -/
def commonShortcuts : List (Text × Text) :=
  [(['!'], ['!']), (['!', '!'], "tag:yaml.org,2002:".toList)]

/-- The directives in front of a document. Only the first version of YAML can be read, and nothing
    may be said twice. -/
def directives : Nat → Bool → List Text → Composer Bool
  | 0, _, _ => refuse
  | fuel + 1, versioned, handles => do
      match ← peek? with
      | some (.version major) =>
          if versioned ∨ major ≠ 1 then refuse
          drop
          let _ ← directives fuel true handles
          return true
      | some (.tagShortcut handle address) =>
          if handles.contains handle then refuse
          drop
          modify fun s => { s with shortcuts := (handle, address) :: s.shortcuts }
          let _ ← directives fuel versioned (handle :: handles)
          return true
      | some .directive => drop; let _ ← directives fuel versioned handles; return true
      | _ => return false

/-- Passes the ends of documents. -/
def dropEnds : Nat → Composer Unit
  | 0 => return
  | fuel + 1 => do if ← accept .documentEnd then dropEnds fuel

/-- The only document of a text, or none in an empty text. -/
def document (bound : Nat) : Composer (Option Node) := do
  match ← peek? with
  | none => return none
  | some t =>
      let begins := match t with
        | .version _ | .tagShortcut .. | .directive | .documentStart => true
        | _ => false
      let root ←
        if begins then
          let _ ← directives bound false []
          unless ← accept .documentStart do refuse
          let isEmpty := (← peek?).elim true fun t => match t with
            | .version _ | .tagShortcut .. | .directive | .documentStart | .documentEnd => true
            | _ => false
          if isEmpty then pure nothing else node bound true false
        else node bound true false
      dropEnds bound
      unless (← peek?).isNone do refuse
      return some root

end Composer

/-- The node that a text writes; none for a text without any. -/
def Node.read (t : Text) : Except Fault (Option Node) :=
  let (tokens, fault) := scan t
  (Composer.document (8 * (tokens.length + 2))).run' ⟨tokens, fault, [], Composer.commonShortcuts⟩

end Yaml
end PageLoom
