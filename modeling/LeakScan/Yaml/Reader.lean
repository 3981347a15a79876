import LeakScan.Yaml.Node
import LeakScan.Yaml.Number
import LeakScan.Yaml.Value

/-!
# Reading YAML

A text is read as one value. Lists, mappings and sets are made empty and filled later, in the order
in which they were met, so the nodes of one level are read before those in them. The kind of a node
says how its text is understood. A mapping takes over the pairs of the mappings it merges, before
its own; that changes the node, wherever it stands.
-/

set_option autoImplicit false

namespace LeakScan.Yaml

/-- A pair of a mapping: the numbers of its nodes. -/
abbrev NodePair := Nat × Nat

/-- A document that is being made: its nodes, the values of those that were read, its cells, and the
nodes whose cells are to be filled, each with its cell, in order. -/
structure Making where
  nodes : Array Node
  values : Array (Option Value)
  cells : Array Cell
  tasks : Array (Nat × Nat)

namespace Making

abbrev Make := StateT Making (Except Fault)

/-- The node of a number. -/
def node (number : Nat) : Make Node := return (← get).nodes.getD number .empty

/-- Whether the node of a number is of a kind. -/
def isOf (k : Kind) (number : Nat) : Make Bool := return (← node number).kind = k

/-- The numbers of the nodes in a list. -/
def itemsOf (number : Nat) : Make (List Nat) := do
  match ← node number with
  | .list _ items => return items
  | _ => throw .malformed

/-- The pairs of a mapping. -/
def pairsOf (number : Nat) : Make (List NodePair) := do
  match ← node number with
  | .map _ ps => return ps
  | _ => throw .malformed

/-! ## Merging -/

/-- Changes the pairs of a mapping. -/
def setPairs (number : Nat) (ps : List NodePair) : Make Unit :=
  modify fun m => { m with
    nodes := m.nodes.modify number fun
      | .map k _ => .map k ps
      | n => n }

/-- A node of another kind. -/
def ofKind (k : Kind) : Node → Node
  | .scalar _ s => .scalar k s
  | .list _ items => .list k items
  | .map _ ps => .map k ps

/-- The first pair that merges: how many pairs are before it, from `index` on, and what it merges.
The keys before it that are the mark of a default value become texts. -/
def merging? (index : Nat) : List NodePair → Make (Option (Nat × Nat))
  | [] => return none
  | (k, v) :: ps => do
    if ← isOf .merge k then return some (index, v)
    else
      if ← isOf .default k then
        modify fun m => { m with nodes := m.nodes.modify k (ofKind .text) }
      merging? (index + 1) ps

/-- The pairs that a node brings where it is merged: those of a mapping, or those of a list of
mappings, the last first. `flatten` merges what a mapping merges itself. -/
def broughtBy (flatten : Nat → Make Unit) (number : Nat) : Make (List NodePair) := do
  let flattened (number : Nat) : Make (List NodePair) := do
    let _ ← pairsOf number
    flatten number
    pairsOf number
  match ← node number with
  | .map .. => flattened number
  | .list _ items => return (← items.mapM flattened).reverse.flatten
  | .scalar .. => throw .malformed

/-- Merges what a mapping merges, from the pair at `index` on; `merged` are the pairs that came
before. Each step takes a pair out that merges. -/
def flattenFrom : (steps : Nat) → (number index : Nat) → (merged : List NodePair) → Make Unit
  | 0, _, _, _ => return
  | steps + 1, number, index, merged => do
    let ps ← pairsOf number
    match ← merging? index (ps.drop index) with
    | none => setPairs number (merged ++ ps)
    | some (index, v) =>
      setPairs number (ps.eraseIdx index)
      let brought ← broughtBy (fun n => flattenFrom steps n 0 []) v
      flattenFrom steps number index (merged ++ brought)

/-- How many pairs of some nodes merge. -/
def mergingCount (nodes : Array Node) : Nat :=
  nodes.foldl (fun count n => match n with
    | .map _ ps => count + ps.countP fun p => (nodes.getD p.1 .empty).kind = .merge
    | _ => count) 0

/-- Merges what a mapping merges. -/
def flatten (number : Nat) : Make Unit := do
  flattenFrom (mergingCount (← get).nodes + 1) number 0 []

/-! ## Scalars -/

/-- The text of a node that is understood as a scalar. That of a mapping is the text of its default
value; one that is its own default value is too deep. -/
def textFrom : (steps : Nat) → (number : Nat) → Make Text.Loose
  | 0, _ => throw .tooDeep
  | steps + 1, number => do
    match ← node number with
    | .scalar _ s => return s
    | .list .. => throw .malformed
    | .map _ ps =>
      match ← ps.findM? fun p => isOf .default p.1 with
      | some p => textFrom steps p.2
      | none => throw .malformed

/-- The text of a node that is understood as a scalar. -/
def textOf (number : Nat) : Make Text.Loose := do
  textFrom ((← get).nodes.size + 1) number

/-- The value of a real number that is a node of a document. -/
def realValue (number : Nat) : WrittenReal → Value
  | .named => .nan none
  | .value .nan => .nan (some number)
  | .value d => .real d

/-- The date or moment that a text is. -/
def momentOf (s : Text.Loose) : Except Fault Value :=
  match s.whole?.bind fun s => Kind.moment? s.toList with
  | none => .error .notAMoment
  | some m =>
    match m.read with
    | .ok (d, none) => .ok (.date d)
    | .ok (d, some t) => .ok (.moment d t)
    | .error e => .error (.moment e)

/-- Whether a node is written as a scalar. -/
def isScalar (number : Nat) : Make Bool := do
  match ← node number with
  | .scalar .. => return true
  | _ => return false

/-- The value of a node that is understood as a scalar of a kind. -/
def scalarOf (kind : Kind) (number : Nat) : Make Value := do
  let s ← textOf number
  match kind with
  | .null => return .null
  | .bool => return .bool (← truthOf s)
  | .int => return .int (← intOf s)
  | .real => return realValue number (← realOf s)
  | .text => return .text s
  | .bytes => return .bytes (← bytesOf s)
  | .moment => if ← isScalar number then momentOf s else throw .notAText
  | _ => throw .malformed

/-! ## Cells -/

/-- The empty cell of a kind, if its values are cells. -/
def emptyCell? : Kind → Option Cell
  | .list => some (.list [])
  | .map => some (.map [])
  | .set => some (.set [])
  | .orderedMap | .pairs => some (.pairs [])
  | _ => none

/-- Makes a cell for a node, to be filled later. -/
def addCell (number : Nat) (c : Cell) : Make Value := do
  let cell := (← get).cells.size
  modify fun m => { m with cells := m.cells.push c, tasks := m.tasks.push (number, cell) }
  return .cell cell

/-- The value of a node. -/
def valueOf (number : Nat) : Make Value := do
  match (← get).values.getD number none with
  | some v => return v
  | none =>
    let kind := (← node number).kind
    let v ← match emptyCell? kind with
      | some c => addCell number c
      | none => scalarOf kind number
    modify fun m => { m with values := m.values.setIfInBounds number (some v) }
    return v

/-- The fields of a mapping: its keys are no cells. -/
def fieldsFrom : List (Value × Value) → List NodePair → Make (List (Value × Value))
  | fields, [] => return fields
  | fields, (k, v) :: ps => do
    let key ← valueOf k
    if !key.isKey then throw .malformed
    let value ← valueOf v
    fieldsFrom (Value.insert key value fields) ps

/-- The fields of a mapping and of what it merges. -/
def fieldsOf (number : Nat) : Make (List (Value × Value)) := do
  let _ ← pairsOf number
  flatten number
  fieldsFrom [] (← pairsOf number)

/-- The one pair of a mapping. -/
def onlyPair (number : Nat) : Make (Value × Value) := do
  match ← pairsOf number with
  | [(k, v)] =>
    let key ← valueOf k
    return (key, ← valueOf v)
  | _ => throw .malformed

/-- What the cell of a node holds; the empty cell says what it is a cell of. -/
def contentOf (number : Nat) : Cell → Make Cell
  | .list _ => return .list (← (← itemsOf number).mapM valueOf)
  | .pairs _ => return .pairs (← (← itemsOf number).mapM onlyPair)
  | .map _ => return .map (← fieldsOf number)
  | .set _ => return .set (Value.ordered ((← fieldsOf number).map (·.1)))

/-- Fills cells, from the task at `index` on. -/
def fillFrom : (steps : Nat) → (index : Nat) → Make Unit
  | 0, _ => return
  | steps + 1, index => do
    let m ← get
    match m.tasks[index]? with
    | none => return
    | some (number, cell) =>
      let c ← contentOf number (m.cells.getD cell (.list []))
      modify fun m => { m with cells := m.cells.setIfInBounds cell c }
      fillFrom steps (index + 1)

/-- Makes the value of a document. A node has one cell at most, so there are no more tasks than
nodes. -/
def document (root : Nat) : Make Value := do
  let v ← valueOf root
  fillFrom ((← get).nodes.size + 1) 0
  return v

/-- The document of some nodes. -/
def ofGraph (g : Graph) : Except Fault Yaml := do
  let start : Making := ⟨g.nodes, Array.replicate g.nodes.size none, #[], #[]⟩
  let (root, m) ← (document g.root).run start
  return ⟨m.cells, root⟩

end Making

/-- A text with a newline for every end of a line. -/
def withNewlines : List Char → List Char
  | '\r' :: '\n' :: cs => '\n' :: withNewlines cs
  | '\r' :: cs => '\n' :: withNewlines cs
  | c :: cs => c :: withNewlines cs
  | [] => []

/-- Reads a text. -/
def ofText (s : String) : Except Fault Yaml := do
  Making.ofGraph (← Node.ofStream (.ofChars (withNewlines s.toList)))

end LeakScan.Yaml
