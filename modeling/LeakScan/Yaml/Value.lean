import LeakScan.Number.Shortest
import LeakScan.Yaml.Moment

/-!
# YAML values

The values that a YAML text holds. Lists, mappings and sets are cells of a document, and a value
that is one gives the number of its cell, so that a cell may stand in many places and even inside
itself. The keys of a mapping are no cells; they are the same key when they are equal as numbers, as
texts or as moments in time, and the last value of a key counts.
-/

set_option autoImplicit false

namespace LeakScan

namespace Yaml

/-- A value. The value that is not a number is the same as another only if both were written with
the name for it, or both come from the same node. -/
inductive Value where
  | null
  | bool (b : Bool)
  | int (i : Int)
  | real (d : Double)
  | nan (node : Option Nat)
  | text (s : Text.Loose)
  | bytes (b : List UInt8)
  | date (d : Date)
  | moment (d : Date) (t : DayTime)
  | cell (number : Nat)
deriving DecidableEq, Repr

/-- What a cell holds. -/
inductive Cell where
  | list (items : List Value)
  | set (items : List Value)
  | pairs (items : List (Value × Value))
  | map (fields : List (Value × Value))
deriving DecidableEq, Repr

end Yaml

/-- A YAML document: its cells, and the value that it is. -/
structure Yaml where
  cells : Array Yaml.Cell
  root : Yaml.Value
deriving DecidableEq, Repr

namespace Yaml

/-- How one byte shows between `quote`s. -/
def byteShown (quote : Char) (b : UInt8) : List Char :=
  let c := Char.ofNat b.toNat
  if c = quote || c = '\\' then ['\\', c]
  else if c = '\n' then ['\\', 'n']
  else if c = '\r' then ['\\', 'r']
  else if c = '\t' then ['\\', 't']
  else if 32 ≤ b && b < 127 then [c]
  else '\\' :: 'x' :: Text.hexDigits 2 b.toNat

/-- How bytes show in a message. -/
def bytesShown (bs : List UInt8) : String :=
  let quote := Text.quoteFor (bs.map fun b => Char.ofNat b.toNat)
  String.ofList ('b' :: quote :: bs.flatMap (byteShown quote) ++ [quote])

/-- What stands between brackets, with commas between its parts. -/
def bracketed (opening : String) (parts : List String) (closing : String) : String :=
  opening ++ ", ".intercalate parts ++ closing

/-- What stands for a cell inside itself. -/
def Cell.mark : Cell → String
  | list _ | pairs _ => "[...]"
  | set _ => "set(...)"
  | map _ => "\x7b...\x7d"

/-- Why nothing shows of a value: an integer in it has too many digits, or a value in it stands too
deep. -/
inductive Unshown where
  | tooWide
  | tooDeep
deriving DecidableEq, Repr

/-- What is said of a value that does not show. -/
def Unshown.message : Unshown → String
  | tooWide => Numeral.tooWideMessage
  | tooDeep => "maximum recursion depth exceeded while getting the repr of an object"

/-- How an integer shows. -/
def intShown (i : Int) : Except Unshown String :=
  match Numeral.ofInt? i with
  | some s => .ok s
  | none => .error .tooWide

/-- How two values show together. -/
def both (f : Value → Except Unshown String) (join : String → String → String)
    (p : Value × Value) : Except Unshown String := do
  return join (← f p.1) (← f p.2)

/-- How what a cell holds shows, where `f` says how values in it do, and `g` how they do one level
deeper: the members of a set stand in a list, and those of a pair in the pair. -/
def Cell.shownBy (f g : Value → Except Unshown String) : Cell → Except Unshown String
  | list items => return bracketed "[" (← items.mapM f) "]"
  | set [] => return "set()"
  | set items => return bracketed "\x7b" (← items.mapM g) "\x7d"
  | pairs items => do
    let pair k v := "(" ++ k ++ ", " ++ v ++ ")"
    return bracketed "[" (← items.mapM (both g pair)) "]"
  | map fields => do
    let field k v := k ++ ": " ++ v
    return bracketed "\x7b" (← fields.mapM (both f field)) "\x7d"

/-- How a value shows inside some cells, of which a mark shows when they come again. `room` is how
many levels there may be, that of the value among them; what is missing counts as too deep. -/
def shownIn (cells : Array Cell) :
    (room : Nat) → (around : List Nat) → Value → Except Unshown String
  | 0, _, _ => .error .tooDeep
  | room + 1, around, v =>
    match v with
    | .null => .ok "None"
    | .bool b => .ok (if b then "True" else "False")
    | .int i => intShown i
    | .real d => .ok d.text
    | .nan _ => .ok Double.nan.text
    | .text s => .ok s.quoted
    | .bytes b => .ok (bytesShown b)
    | .date d => .ok d.shown
    | .moment d t => .ok (momentShown d t)
    | .cell number =>
      match cells[number]? with
      | none => .error .tooDeep
      | some c =>
        if around.contains number then .ok c.mark
        else c.shownBy (shownIn cells room (number :: around)) (match room with
          | 0 => fun _ => .error .tooDeep
          | room + 1 => shownIn cells room (number :: around))
termination_by structural room => room

/-- How many levels may show of a value: a thousand may be open at a time, and the calls around the
value take some of them. -/
def maxLevels : Nat := 990

/-- How a document shows in a message. -/
def shown (y : Yaml) : Except Unshown String := shownIn y.cells maxLevels [] y.root

/-- A document as plain text: texts, dates and moments as they are, another value as it shows. -/
def plain (y : Yaml) : Except Unshown String :=
  match y.root with
  | .text s => .ok s.repaired
  | .date d => .ok d.text
  | .moment d t => .ok (d.text ++ " " ++ t.text)
  | _ => y.shown

/-- A text as a document. -/
def ofString (s : String) : Yaml := ⟨#[], .text (.whole s)⟩

/-- The fields of a document that is a mapping: their keys, and their values as documents. -/
def fields? (y : Yaml) : Option (List (Value × Yaml)) :=
  match y.root with
  | .cell number =>
    match y.cells[number]? with
    | some (.map fields) => some (fields.map fun f => (f.1, { y with root := f.2 }))
    | _ => none
  | _ => none

namespace Value

/-- The number that a value is, if it is one. -/
def number? : Value → Option Double
  | bool b => some (.ofInt (if b then 1 else 0))
  | int i => some (.ofInt i)
  | real d => some d
  | _ => none

/-- The integer that a value is, if it is a whole number. -/
def whole? : Value → Option Int
  | bool b => some (if b then 1 else 0)
  | int i => some i
  | real d => if d.isWhole then d.truncate? else none
  | _ => none

/-- Whether a value may be a key. -/
def isKey : Value → Bool
  | cell _ => false
  | _ => true

/-- Whether two keys are the same key. -/
def sameKey : Value → Value → Bool
  | null, null => true
  | nan a, nan b => a = b
  | text s, text t => s = t
  | bytes a, bytes b => a = b
  | date a, date b => a = b
  | moment a s, moment b t => sameMoment (a, s) (b, t)
  | v, w =>
    match v.whole?, w.whole? with
    | some i, some j => i = j
    | none, none =>
      match v.number?, w.number? with
      | some x, some y => x = y
      | _, _ => false
    | _, _ => false

/-- Sets a key: in place when it is there, at the end when it is new. -/
def insert (key value : Value) : List (Value × Value) → List (Value × Value)
  | [] => [(key, value)]
  | (k, v) :: fields =>
    if sameKey k key then (k, value) :: fields else (k, v) :: insert key value fields

/-- The number that whole numbers leave a remainder by where a set has a number of members: a power
of two that grows with them. -/
def ringSize (members : Nat) : Nat :=
  if members < 5 then 8 else Nat.pow 2 (Nat.log2 (2 * members) + 1)

/-- The members of a set in the order in which they show. Whole numbers are ordered by their
remainders; other members stay as they are. -/
def ordered (members : List Value) : List Value :=
  match members.mapM whole? with
  | none => members
  | some numbers =>
    let size : Int := ringSize members.length
    let place (i : Int) : Int := (if i = -1 then -2 else i) % size
    ((members.zip numbers).mergeSort fun a b => place a.2 ≤ place b.2).map (·.1)

end Value
end Yaml
end LeakScan
