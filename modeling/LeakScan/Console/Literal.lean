import LeakScan.Console.Literal.Token

/-!
# Literals

Whether a text is a literal: a number, a text, or literals in round brackets or in braces, where
braces hold a set or the pairs of a mapping. Words and operations are let through as well, since
only what they stand for would tell. A literal that may change, like a set, is no member of a set
and no key.

The reader goes as far as it can. Where it cannot go on, it says what was most likely meant: a
comma that is left out, a comparison where an assignment stands, or brackets around what is given
to a call.
-/

set_option autoImplicit false

namespace LeakScan.Console.Literal

/-- What an expression is. -/
inductive Kind where
  | name
  | constant (word : String)
  | literal
  | ellipsis
  | field
  | call
  | operation
  | comparison
  | logic
  | condition
  | tuple
  | dict
  | set
deriving DecidableEq, Repr

/-- How an expression is called in messages. -/
def Kind.text : Kind → String
  | name => "name"
  | constant word => word
  | literal => "literal"
  | ellipsis => "ellipsis"
  | field => "attribute"
  | call => "function call"
  | operation | logic => "expression"
  | comparison => "comparison"
  | condition => "conditional expression"
  | tuple => "tuple"
  | dict => "dict literal"
  | set => "set display"

/-- Whether an equals sign after an expression is said to be a comparison that was meant. -/
def Kind.mayBeCompared : Kind → Bool
  | comparison | logic | condition | tuple => false
  | _ => true

/-- Whether an expression may stand after a star among others. -/
def Kind.mayBeStarred : Kind → Bool
  | comparison | logic | condition => false
  | _ => true

/-- What was read: what it is, the kind of a literal that is no member of a set, and the first fault
that its members make. -/
structure Reading where
  kind : Kind
  changing : Option String
  fault : Option Fault

/-- An expression that never changes. -/
def Reading.plain (kind : Kind) : Reading := ⟨kind, none, none⟩

/-- The fault of a literal as a member of a set or a key. -/
def Reading.memberFault (r : Reading) : Option Fault :=
  r.fault.orElse fun _ => r.changing.map .unhashable

/-- Literals with commas between them. -/
def Reading.all (rs : List Reading) : Reading :=
  ⟨.tuple, rs.findSome? (·.changing), rs.findSome? (·.fault)⟩

/-- How to read: the bracket that is never closed, if one is not, and whether to say what was
meant where reading cannot go on. -/
structure Manner where
  unclosed : Option Char
  hints : Bool

/-- Reads from the tokens that are left. -/
abbrev Read := ReaderT Manner (StateT (List Token) (Except Fault))

/-- The words that name no value. -/
def keywords : List String :=
  ["and", "as", "assert", "async", "await", "break", "class", "continue", "def", "del", "elif",
    "else", "except", "finally", "for", "from", "global", "if", "import", "in", "is", "lambda",
    "nonlocal", "not", "or", "pass", "raise", "return", "try", "while", "with", "yield"]

/-- The words that are keywords in some places only; no comma is missed after them. -/
def softKeywords : List String := ["_", "case", "match"]

/-- The words for constants. -/
def constants : List String := ["None", "True", "False"]

/-- The names of what once was called without brackets. -/
def barelyCalled : List String := ["print", "exec"]

/-- Whether a token begins an expression, other than one that may also go on after an expression. -/
def Token.begins : Token → Bool
  | .word _ | .number _ | .text | .dots | .opening '\x7b' | .sign "~" => true
  | _ => false

/-- What an expression is that has an operation of a sign between two others. -/
def operationOf (sign : String) : Kind :=
  if ["==", "!=", "<=", ">=", "<", ">"].contains sign then .comparison else .operation

/-- The place of items with commas between them. -/
inductive Place where
  | group
  | set
  | arguments
deriving DecidableEq, Repr

/-- The bracket that closes a place. -/
def Place.close : Place → Char
  | set => '\x7d'
  | group | arguments => ')'

/-- An item as it begins: its first token, and whether it has no other. -/
structure Start where
  first : Option Token
  isShort : Bool

/-- How an item began that some tokens stood before and after. -/
def Start.between (before after : List Token) : Start :=
  ⟨before.head?, before.length = after.length + 1⟩

/-- The word that an item is, if it is one that may stand for anything. -/
def Start.name? (s : Start) : Option String :=
  match s.first with
  | some (.word w) => if s.isShort && !constants.contains w then some w else none
  | _ => none

/-- Whether a comma is never missed after an item that `next` follows. -/
def Start.isSoft (s : Start) (next : Token) : Bool :=
  match s.first with
  | some (.word w) => softKeywords.contains w || (s.name?.isSome && next = .text)
  | _ => false

/-- Whether an item begins with the word for a constant. -/
def Start.isConstant (s : Start) : Bool :=
  match s.first with
  | some (.word w) => constants.contains w
  | _ => false

/-- Whether a fault says what was meant. -/
def Fault.isHint : Fault → Bool
  | commaLeftOut | comparisonMeant | assigned _ | bound _ | bracketsLeftOut _ | elseExpected
  | starred | doublyStarred | nothingStarred => true
  | _ => false

/-- Ends with a fault. -/
def fail {α : Type} (e : Fault) : Read α := do
  if e.isHint && !(← read).hints then throw .malformed else throw e

/-- The next token. Where a bracket is never closed, nothing stands at the end. -/
def peek : Read (Option Token) := do
  match ← get, (← read).unclosed with
  | t :: _, _ => return some t
  | [], none => return none
  | [], some c => throw (.neverClosed c)

/-- Takes the next token away. -/
def skip : Read Unit := modify List.tail

/-- Takes the next token away if it is the one given. -/
def skipIf (t : Token) : Read Bool := do
  if (← peek) = some t then
    skip
    return true
  else return false

/-- Takes further texts away, which belong to the one before. -/
def skipTexts : Read Unit := do
  modify fun ts => ts.dropWhile (· = .text)

/-- Reads what may be left out: where it does not stand, nothing is taken away. -/
def attempt {α : Type} (read : Read α) : Read (Option α) := fun m ts =>
  match read m ts with
  | .ok (a, rest) => .ok (some a, rest)
  | .error .malformed => .ok (none, ts)
  | .error e => .error e

/-- Whether something could be read here. Nothing is taken away. -/
def wouldRead {α : Type} (read : Read α) : Read Bool := fun m ts =>
  match attempt read { m with hints := false } ts with
  | .ok (a, _) => .ok (a.isSome, ts)
  | .error e => .error e

mutual

/-- Reads an expression. -/
def expression : (steps : Nat) → Read Reading
  | 0 => throw .malformed
  | steps + 1 => do
    let r ← chain steps
    match ← peek with
    | some (.word "if") => return (← attempt (condition steps)).getD r
    | _ => return r

/-- Reads the rest of an expression that depends on a condition. -/
def condition : (steps : Nat) → Read Reading
  | 0 => throw .malformed
  | steps + 1 => do
    skip
    let _ ← chain steps
    match ← peek with
    | some (.word "else") =>
      skip
      let _ ← expression steps
      return .plain .condition
    | some .colon => throw .malformed
    | _ => fail .elseExpected

/-- Reads expressions with operations between them. -/
def chain : (steps : Nat) → Read Reading
  | 0 => throw .malformed
  | steps + 1 => do
    if ← skipIf (.word "not") then
      let _ ← chain steps
      return .plain .logic
    else
      let r ← operand steps
      operations r steps

/-- Goes on with operations after an expression. -/
def operations (r : Reading) : (steps : Nat) → Read Reading
  | 0 => throw .malformed
  | steps + 1 => do
    let other (kind : Kind) (read : Read Reading) : Read Reading := do
      let other ← read
      return .plain (if other.kind.mayBeCompared then kind else other.kind)
    let next : Read Reading := do operations (← operand steps) steps
    let go ← match ← peek with
      | some (.sign "~") => pure none
      | some (.sign s) => attempt do
        skip
        other (operationOf s) next
      | some (.word "and") | some (.word "or") => attempt do
        skip
        other .logic (chain steps)
      | some (.word "in") => attempt do
        skip
        other .comparison next
      | some (.word "is") => attempt do
        skip
        let _ ← skipIf (.word "not")
        other .comparison next
      | some (.word "not") => attempt do
        skip
        if ← skipIf (.word "in") then other .comparison next else throw .malformed
      | _ => pure none
    return go.getD r

/-- Reads an expression that an operation takes. -/
def operand : (steps : Nat) → Read Reading
  | 0 => throw .malformed
  | steps + 1 => do
    match ← peek with
    | some (.sign s) =>
      if ["+", "-", "~"].contains s then
        skip
        let _ ← operand steps
        return .plain .operation
      else throw .malformed
    | some (.number digits) =>
      if Numeral.maxDigits < digits then throw (.tooLong digits)
      else
        skip
        trailer (.plain .literal) steps
    | some .text =>
      skipTexts
      trailer (.plain .literal) steps
    | some .dots =>
      skip
      trailer (.plain .ellipsis) steps
    | some (.word w) =>
      if keywords.contains w then throw .malformed
      else
        skip
        trailer (.plain (if constants.contains w then .constant w else .name)) steps
    | some (.opening '(') =>
      skip
      let (rs, comma) ← items .group true steps
      match rs, comma with
      | [r], false => trailer r steps
      | rs, _ => trailer (.all rs) steps
    | some (.opening _) =>
      skip
      trailer (← braces steps) steps
    | _ => throw .malformed

/-- Reads the arguments and names that may follow an expression. -/
def trailer (r : Reading) : (steps : Nat) → Read Reading
  | 0 => throw .malformed
  | steps + 1 => do
    match ← peek with
    | some (.opening '(') =>
      let call := do
        skip
        items .arguments true steps
      match ← attempt call with
      | some _ => trailer (.plain .call) steps
      | none => return r
    | some .point =>
      let field : Read Unit := do
        skip
        match ← peek with
        | some (.word w) =>
          if keywords.contains w || constants.contains w then throw .malformed else skip
        | _ => throw .malformed
      match ← attempt field with
      | some _ => trailer (.plain .field) steps
      | none => return r
    | _ => return r

/-- Reads items with commas between them, up to a closing bracket, and whether a comma follows the
last one. -/
def items (place : Place) (isFirst : Bool) : (steps : Nat) → Read (List Reading × Bool)
  | 0 => throw .malformed
  | steps + 1 => do
    if ← skipIf (.closing place.close) then return ([], true)
    else if ← skipIf (.sign "*") then
      let before ← get
      match ← attempt (expression steps) with
      | some r => itemsFrom place isFirst (some .starred) before r steps
      | none => if isFirst then fail .nothingStarred else throw .malformed
    else if ← skipIf (.sign "**") then
      if place = .set then throw .malformed
      else
        let before ← get
        itemsFrom place isFirst (some .doublyStarred) before (← expression steps) steps
    else
      let before ← get
      itemsFrom place isFirst none before (← expression steps) steps

/-- Goes on after an item. `star` is the fault of the stars before it, where it stands alone. -/
def itemsFrom (place : Place) (isFirst : Bool) (star : Option Fault) (before : List Token)
    (r : Reading) : (steps : Nat) → Read (List Reading × Bool)
  | 0 => throw .malformed
  | steps + 1 => do
    let start := Start.between before (← get)
    let isAlone := isFirst && (← peek) = some (.closing ')')
    if place = .group && star = some .doublyStarred && !isAlone then fail (← gap true start steps)
    else if place != .arguments && star = some .starred && !r.kind.mayBeStarred && !isAlone then
      throw .malformed
    else if ← skipIf .comma then
      let (rs, _) ← items place false steps
      return (r :: rs, true)
    else if ← skipIf (.closing place.close) then
      match place, isFirst, star with
      | .group, true, some e => fail e
      | _, _, _ => return ([r], false)
    else
      match ← peek, start.name? with
      | some .binding, some _ =>
        skip
        let q ← expression steps
        itemsFrom place isFirst (some .malformed) [] q steps
      | some .binding, none =>
        skip
        let _ ← expression steps
        fail (.bound r.kind.text)
      | some .equals, name? =>
        skip
        if place = .arguments && name?.isSome then
          let q ← expression steps
          itemsFrom place isFirst (some .malformed) [] q steps
        else fail (← assignment start r.kind steps)
      | _, _ => fail (← gap true start steps)

/-- The fault of an item that an equals sign follows, which is read. -/
def assignment (start : Start) (kind : Kind) : (steps : Nat) → Read Fault
  | 0 => throw .malformed
  | steps + 1 => do
    if start.isConstant || !kind.mayBeCompared then return .malformed
    else
      let _ ← operations (← operand steps) steps
      match ← peek with
      | some .equals | some .binding => return .malformed
      | _ => return if start.name?.isSome then .comparisonMeant else .assigned kind.text

/-- The fault of an item that something follows which is no comma. Inside brackets a comma may be
left out; after a name, brackets may be. -/
def gap (inside : Bool) (start : Start) : (steps : Nat) → Read Fault
  | 0 => throw .malformed
  | steps + 1 => do
    match ← peek with
    | none => return .malformed
    | some next =>
      if !next.begins || !(← read).hints then return .malformed
      else
        let bare := start.name?.filter barelyCalled.contains
        let follows ← if start.isSoft next then pure false else wouldRead (expression steps)
        if inside && follows && bare.isNone then return .commaLeftOut
        else if start.name?.isNone then return .malformed
        else
          match ← attempt (several true inside steps), bare with
          | some _, some w => return .bracketsLeftOut w
          | _, _ => return .malformed

/-- Reads expressions with commas between them, as far as they go, and the stars before them if
these may stand there. -/
def several (stars inside : Bool) : (steps : Nat) → Read (List Reading)
  | 0 => throw .malformed
  | steps + 1 => do
    if stars then
      let _ ← skipIf (.sign "*")
    let before ← get
    let r ← expression steps
    let rest ← get
    if ← skipIf .comma then
      return r :: ((← attempt (several stars inside steps)).getD [])
    else
      match ← gap inside (.between before rest) steps with
      | .malformed =>
        set rest
        return [r]
      | e => fail e

/-- Reads a set or a mapping after its brace. -/
def braces : (steps : Nat) → Read Reading
  | 0 => throw .malformed
  | steps + 1 => do
    match ← peek with
    | some (.closing _) =>
      skip
      return ⟨.dict, some "dict", none⟩
    | some (.sign "**") => return ⟨.dict, some "dict", ← pairs steps⟩
    | some (.sign "*") =>
      let (rs, _) ← items .set true steps
      return ⟨.set, some "set", rs.findSome? Reading.memberFault⟩
    | _ =>
      let before ← get
      let r ← expression steps
      if (← peek) = some .colon then
        return ⟨.dict, some "dict", ← pairsFrom before r steps⟩
      else
        let (rs, _) ← itemsFrom .set true none before r steps
        return ⟨.set, some "set", rs.findSome? Reading.memberFault⟩

/-- Reads the pairs of a mapping, up to its closing brace: the first fault that they make. -/
def pairs : (steps : Nat) → Read (Option Fault)
  | 0 => throw .malformed
  | steps + 1 => do
    if ← skipIf (.closing '\x7d') then return none
    else if ← skipIf (.sign "**") then
      let _ ← chain steps
      if ← skipIf .comma then
        let _ ← pairs steps
        return some .keyLeftOut
      else if ← skipIf (.closing '\x7d') then return some .keyLeftOut
      else throw .malformed
    else
      let before ← get
      pairsFrom before (← expression steps) steps

/-- Goes on after the key of a pair. -/
def pairsFrom (before : List Token) (key : Reading) : (steps : Nat) → Read (Option Fault)
  | 0 => throw .malformed
  | steps + 1 => do
    let start := Start.between before (← get)
    match ← peek with
    | some .colon => skip
    | _ =>
      match ← gap true start steps with
      | .malformed => throw .colonExpected
      | e => fail e
    match ← peek with
    | some .comma | some (.closing _) => throw .valueExpected
    | some (.sign "*") =>
      skip
      let _ ← chain steps
      throw .starredValue
    | _ => pure ()
    let before ← get
    let value ← expression steps
    let start := Start.between before (← get)
    let fault := key.fault.orElse fun _ => value.fault.orElse fun _ => key.memberFault
    if ← skipIf .comma then
      let more ← pairs steps
      return fault.orElse fun _ => more
    else if ← skipIf (.closing '\x7d') then return fault
    else fail (← gap true start steps)

end

/-- Checks that a text is a literal. -/
def check (cs : List Char) : Except Fault Unit := do
  let (ts, unclosed) ← tokens cs
  let (rs, rest) ← several false false (6 * ts.length + 6) ⟨unclosed, true⟩ ts
  if !rest.isEmpty then throw .malformed
  match rs.findSome? (·.fault) with
  | some e => throw e
  | none => return ()

end LeakScan.Console.Literal
