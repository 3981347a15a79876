import LeakScan.Yaml.Kind
import LeakScan.Yaml.Token

/-!
# Nodes of a YAML text

A document is a graph of nodes: scalars, lists and mappings, each of a kind. Lists and mappings name
the nodes in them by their numbers, and an alias gives the number of its anchor's node, so a node
may stand in many places and even inside itself.

Every call of a reader passes on one step less than it was given. A call takes a token or leads to
one that does, so a few steps for every token are enough. Nodes may not be nested deeper than
`maxNesting`.
-/

set_option autoImplicit false

namespace LeakScan.Yaml

/-- A node of a document. -/
inductive Node where
  | scalar (kind : Kind) (text : Text.Loose)
  | list (kind : Kind) (items : List Nat)
  | map (kind : Kind) (pairs : List (Nat × Nat))
deriving Repr

/-- The nodes of a document and the number of the one that holds the others. -/
structure Graph where
  nodes : Array Node
  root : Nat

namespace Node

/-- A scalar that is not written. -/
def empty : Node := .scalar .null (.whole "")

/-- The kind of a node. -/
def kind : Node → Kind
  | scalar k _ | list k _ | map k _ => k

/-- How deep nodes may be nested. -/
def maxNesting : Nat := 488

/-- What is left to read, and what is known: the fault that ends the tokens, how deep nodes may
still be nested, the nodes that were read, the numbers of the nodes that anchors name, and the
meaning of handles. -/
structure Source where
  tokens : List Token
  fault : Option Fault
  room : Nat
  nodes : Array Node
  anchors : List (String × Nat)
  handles : List (String × String)

abbrev Read := StateT Source (Except Fault)

def fault {α : Type} : Read α := throw .malformed

/-- The next token; the fault of the text where the tokens before it are used up. -/
def peek : Read (Option Token) := do
  match (← get).tokens, (← get).fault with
  | t :: _, _ => return some t
  | [], none => return none
  | [], some e => throw e

/-- Takes the next token away. -/
def skip : Read Unit := modify fun s => { s with tokens := s.tokens.tail }

/-- Takes the next token away if it is the one given. -/
def skipIf (t : Token) : Read Bool := do
  if (← peek) = some t then
    skip
    return true
  else return false

/-- Whether the next token is one of those given. -/
def sees (ts : List Token) : Read Bool := return (← peek).any ts.contains

/-- Adds a node: its number. -/
def add (n : Node) : Read Nat := do
  let number := (← get).nodes.size
  modify fun s => { s with nodes := s.nodes.push n }
  return number

/-- Adds a scalar that is not written. -/
def nothing : Read Nat := add empty

/-- The kind that a written tag names. A lone exclamation mark names none. -/
def kindOf (t : WrittenTag) : Read (Option Kind) := do
  match t.handle with
  | none => return if t.suffix = "!" then none else some (.ofTag t.suffix)
  | some handle =>
    match (← get).handles.lookup handle with
    | none => fault
    | some meaning =>
      let tag := meaning ++ t.suffix
      return if tag = "!" then none else some (.ofTag tag)

/-- The properties of a node: its anchor and its tag. A tag that names no kind is still there. -/
structure Properties where
  anchor : Option String
  hasTag : Bool
  kind : Option Kind

/-- Takes a tag if one is next. -/
def takeTag : Read (Option WrittenTag) := do
  match ← peek with
  | some (.tag t) =>
    skip
    return some t
  | _ => return none

/-- Takes an anchor if one is next. -/
def takeAnchor : Read (Option String) := do
  match ← peek with
  | some (.anchor a) =>
    skip
    return some a
  | _ => return none

/-- Properties of an anchor and a tag. -/
def propertiesOf (anchor : Option String) : Option WrittenTag → Read Properties
  | none => return ⟨anchor, false, none⟩
  | some t => return ⟨anchor, true, ← kindOf t⟩

/-- Reads the properties of a node, in either order. -/
def properties : Read Properties := do
  match ← takeAnchor with
  | some a => propertiesOf (some a) (← takeTag)
  | none =>
    match ← takeTag with
    | none => propertiesOf none none
    | some t =>
      let anchor ← takeAnchor
      propertiesOf anchor (some t)

/-- Gives an anchor its node. -/
def bind (anchor : Option String) (number : Nat) : Read Unit :=
  match anchor with
  | none => return
  | some a => modify fun s => { s with anchors := (a, number) :: s.anchors }

/-- Refuses an anchor that has been given. -/
def requireNew (anchor : Option String) : Read Unit := do
  match anchor with
  | none => return
  | some a => if ((← get).anchors.lookup a).isSome then fault else return

/-- Adds a scalar. One that is plain or has a tag without a kind says its kind itself. -/
def addScalar (p : Properties) (text : Text.Loose) (plain : Bool) : Read Nat := do
  let own := if plain || p.hasTag then .ofText text else .text
  let number ← add (.scalar (p.kind.getD own) text)
  bind p.anchor number
  return number

/-- Reads a list or mapping of some properties. Its anchor is known inside it. -/
def within (p : Properties) (parts : Read Node) : Read Nat := do
  match (← get).room with
  | 0 => throw .tooDeep
  | room + 1 =>
    modify fun s => { s with room := room }
    let number ← add empty
    bind p.anchor number
    let n ← parts
    modify fun s => { s with room := room + 1, nodes := s.nodes.setIfInBounds number n }
    return number

/-- Adds a node of which only the properties are written. -/
def unwritten (p : Properties) : Read Nat :=
  if p.anchor.isSome || p.hasTag then addScalar p (.whole "") true else fault

/-- The handles that are known without a directive. -/
def standardHandles : List (String × String) := [("!", "!"), ("!!", Kind.tagStart)]

mutual

/-- Reads a node. In a block, collections without brackets are read; where `items` says so, a list
may stand without an indentation of its own. -/
def read (block items : Bool) : (steps : Nat) → Read Nat
  | 0 => fault
  | steps + 1 => do
    if let some (.alias a) ← peek then
      skip
      match (← get).anchors.lookup a with
      | some number => return number
      | none => fault
    else
      let p ← properties
      let next ← peek
      requireNew p.anchor
      match next with
      | some (.scalar text plain) =>
        skip
        addScalar p text plain
      | some .openList =>
        skip
        within p do return .list (p.kind.getD .list) (← flowItems true steps)
      | some .openMap =>
        skip
        within p do return .map (p.kind.getD .map) (← flowPairs true steps)
      | some .item =>
        if items then within p do return .list (p.kind.getD .list) (← looseItems steps)
        else unwritten p
      | some .blockList =>
        if block then
          skip
          within p do return .list (p.kind.getD .list) (← blockItems steps)
        else unwritten p
      | some .blockMap =>
        if block then
          skip
          within p do return .map (p.kind.getD .map) (← blockPairs steps)
        else unwritten p
      | _ => unwritten p

/-- Reads the items of a block list, up to its end. -/
def blockItems : (steps : Nat) → Read (List Nat)
  | 0 => fault
  | steps + 1 => do
    if ← skipIf .item then
      let n ← if ← sees [.item, .blockEnd] then nothing else read true false steps
      return n :: (← blockItems steps)
    else if ← skipIf .blockEnd then return []
    else fault

/-- Reads the items of a list that has no indentation of its own. -/
def looseItems : (steps : Nat) → Read (List Nat)
  | 0 => fault
  | steps + 1 => do
    if ← skipIf .item then
      let n ← if ← sees [.item, .key, .value, .blockEnd] then nothing
        else read true false steps
      return n :: (← looseItems steps)
    else return []

/-- Reads the pairs of a block mapping, up to its end. -/
def blockPairs : (steps : Nat) → Read (List (Nat × Nat))
  | 0 => fault
  | steps + 1 => do
    if ← skipIf .key then
      let k ← blockPart steps
      let v ← if ← skipIf .value then blockPart steps else nothing
      return (k, v) :: (← blockPairs steps)
    else if ← skipIf .blockEnd then return []
    else fault

/-- Reads a key or value of a block mapping, which may be left out. -/
def blockPart : (steps : Nat) → Read Nat
  | 0 => fault
  | steps + 1 => do
    if ← sees [.key, .value, .blockEnd] then nothing else read true true steps

/-- Reads the items of a list in brackets, up to the closing one. A pair among them is a mapping
of its own. -/
def flowItems (first : Bool) : (steps : Nat) → Read (List Nat)
  | 0 => fault
  | steps + 1 => do
    if ← skipIf .closeList then return []
    else
      if !first then
        if !(← skipIf .comma) then fault
      if ← skipIf .key then
        let n ← within ⟨none, false, none⟩ do
          return .map .map [← flowPair .closeList steps]
        return n :: (← flowItems false steps)
      else if ← skipIf .closeList then return []
      else
        let n ← read false false steps
        return n :: (← flowItems false steps)

/-- Reads a pair in brackets after the mark of its key. Its key may be left out before a value, a
comma or the closing bracket, and its value before the latter two. -/
def flowPair (close : Token) : (steps : Nat) → Read (Nat × Nat)
  | 0 => fault
  | steps + 1 => do
    let k ← if ← sees [.value, .comma, close] then nothing else read false false steps
    let v ← if ← skipIf .value then
        (do if ← sees [.comma, close] then nothing else read false false steps)
      else nothing
    return (k, v)

/-- Reads the pairs of a mapping in brackets, up to the closing one. A node alone is a key. -/
def flowPairs (first : Bool) : (steps : Nat) → Read (List (Nat × Nat))
  | 0 => fault
  | steps + 1 => do
    if ← skipIf .closeMap then return []
    else
      if !first then
        if !(← skipIf .comma) then fault
      if ← skipIf .key then
        let pair ← flowPair .closeMap steps
        return pair :: (← flowPairs false steps)
      else if ← skipIf .closeMap then return []
      else
        let k ← read false false steps
        let v ← nothing
        return (k, v) :: (← flowPairs false steps)

end

/-- Reads the directives before a document: its version is the first, and it is given once, as is
the meaning of a handle. `version` says whether it was given, and `handles` are those that were. -/
def directives (version : Bool) (handles : List (String × String)) :
    (steps : Nat) → Read (List (String × String))
  | 0 => return handles
  | steps + 1 => do
    match ← peek with
    | some (.directive d) =>
      skip
      match d with
      | .version major =>
        if version || major != 1 then fault else directives true handles steps
      | .handle handle meaning =>
        if (handles.lookup handle).isSome then fault
        else directives version ((handle, meaning) :: handles) steps
      | .unknown => directives version handles steps
    | _ => return handles

/-- Whether a token starts or ends a document, or stands before one. -/
def isBoundary : Token → Bool
  | .directive _ | .documentStart | .documentEnd => true
  | _ => false

/-- Reads the node of a document that starts here. -/
def content : Read Nat := do
  read true false (4 * (← get).tokens.length + 4)

/-- Reads the start of a document after some directives. -/
def documentStart : Read Unit := do
  let handles ← directives false [] (← get).tokens.length
  if ← skipIf .documentStart then
    modify fun s => { s with handles := handles ++ standardHandles }
  else fault

/-- Reads a document. -/
def document : Read Nat := do
  match ← peek with
  | some (.directive _) | some .documentStart =>
    documentStart
    if (← peek).all isBoundary then nothing else content
  | _ => content

/-- Takes the marks of a document's end away. -/
def skipEnds : (steps : Nat) → Read Unit
  | 0 => return
  | steps + 1 => do
    if ← skipIf .documentEnd then skipEnds steps else return

/-- Reads the one document of a text; a text without tokens holds nothing. -/
def single : Read Nat := do
  if (← peek).isNone then nothing
  else
    let root ← document
    skipEnds (← get).tokens.length
    if (← peek).isNone then return root
    else
      documentStart
      fault

/-- The nodes of a text. -/
def ofStream (s : Stream) : Except Fault Graph := do
  let (root, rest) ← single.run ⟨s.tokens, s.fault, maxNesting, #[], [], standardHandles⟩
  return ⟨rest.nodes, root⟩

end Node
end LeakScan.Yaml
