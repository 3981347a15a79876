import LeakScan.Yaml.Property

/-!
# Tokens of a YAML text

A text is a list of tokens. Most stand in the text; where a block of deeper indentation starts and
ends, and where a key starts that no mark announces, tokens are put in. A key without a mark must
end on the line it started on, within `maxKeyLength` characters, so every token that may start one
is remembered as a candidate until a colon comes or the candidate is out of date. Nothing is put in
before the first candidate, so the tokens before it are settled: a fault further on in the text
does not take them back.
-/

set_option autoImplicit false

namespace LeakScan.Yaml

/-- A piece of a YAML text. -/
inductive Token where
  | directive (d : Directive)
  | documentStart
  | documentEnd
  | blockList
  | blockMap
  | blockEnd
  | openList
  | closeList
  | openMap
  | closeMap
  | item
  | comma
  | key
  | value
  | alias (name : String)
  | anchor (name : String)
  | tag (t : WrittenTag)
  | scalar (text : Text.Loose) (plain : Bool)
deriving DecidableEq, Repr

/-- A token that may start a key: how many tokens stand before it, where it stands, and whether it
must be a key. -/
structure Candidate where
  tokens : Nat
  offset : Nat
  line : Nat
  column : Nat
  required : Bool

/-- How long a key without a mark may be. -/
def maxKeyLength : Nat := 1024

/-- A text of which some tokens were read. `indent` is the column of the innermost block
collection, one less than zero if there is none, and `outer` are those of the blocks around it.
There is a candidate, or none, for the block and for every open bracket, the innermost first. -/
structure Layout where
  cursor : Cursor
  indent : Int
  outer : List Int
  keyAllowed : Bool
  candidate : Option Candidate
  brackets : List (Option Candidate)
  tokens : Array Token

namespace Layout

/-- A text of which no token was read. -/
def start (cs : List Char) : Layout := ⟨.start cs, -1, [], true, none, [], #[]⟩

/-- Whether the text is read inside brackets. -/
def inFlow (l : Layout) : Bool := !l.brackets.isEmpty

def emit (l : Layout) (t : Token) : Layout := { l with tokens := l.tokens.push t }

/-- Goes forward over some characters. -/
def skip (l : Layout) (n : Nat) : Layout := { l with cursor := l.cursor.forward n }

/-- Goes forward to a later rest of the text. -/
def upTo (l : Layout) (rest : List Char) : Layout := { l with cursor := l.cursor.upTo rest }

def allowKey (l : Layout) (allowed : Bool) : Layout := { l with keyAllowed := allowed }

/-- Goes to the next token, over spaces, comments and line breaks. -/
def skipToToken : (steps : Nat) → Layout → Layout
  | 0, l => l
  | steps + 1, l =>
    let c := l.cursor.skipWhile (· = ' ')
    let c := if c.peek = some '#' then c.lineEnd else c
    if c.peek.any isBreak then
      skipToToken steps { l with cursor := c.next, keyAllowed := l.keyAllowed || !l.inFlow }
    else { l with cursor := c }

/-- Whether a candidate can no longer become a key at a place. -/
def isStale (k : Candidate) (c : Cursor) : Bool :=
  k.line != c.line || maxKeyLength < c.offset - k.offset

/-- A candidate, unless it is out of date; one that must be a key may not be. -/
def fresh (c : Cursor) : Option Candidate → Except Fault (Option Candidate)
  | none => .ok none
  | some k =>
    if isStale k c then (if k.required then .error .malformed else .ok none)
    else .ok (some k)

/-- Drops the candidates that are out of date. -/
def dropStale (l : Layout) : Except Fault Layout := do
  let candidate ← fresh l.cursor l.candidate
  let brackets ← l.brackets.mapM (fresh l.cursor)
  return { l with candidate := candidate, brackets := brackets }

/-- Drops the innermost candidate; one that must be a key may not be dropped. -/
def dropCandidate (l : Layout) : Except Fault Layout :=
  if l.candidate.any (·.required) then .error .malformed
  else .ok { l with candidate := none }

/-- Remembers the next token as one that may start a key. -/
def keepCandidate (l : Layout) : Except Fault Layout := do
  if l.keyAllowed then
    let l ← l.dropCandidate
    let c := l.cursor
    let required := !l.inFlow && l.indent = c.column
    return { l with candidate := some ⟨l.tokens.size, c.offset, c.line, c.column, required⟩ }
  else return l

/-- Ends the blocks that are indented further than a column. -/
def closeBlocks (column : Int) : List Int → Layout → Layout
  | [], l => l
  | i :: outer, l =>
    if column < l.indent then
      closeBlocks column outer ({ l with indent := i, outer := outer }.emit .blockEnd)
    else l

/-- Ends the blocks that are indented further than a column, outside brackets. -/
def unwind (l : Layout) (column : Int) : Layout :=
  if l.inFlow then l else closeBlocks column l.outer l

/-- Starts a block at a column if that is further in than the block around it. Its token is put
before the tokens from `place` on. -/
def openBlock (l : Layout) (column : Nat) (place : Nat) (t : Token) : Layout :=
  if l.indent < column then
    { l with
      outer := l.indent :: l.outer
      indent := column
      tokens := l.tokens.insertIdxIfInBounds place t }
  else l

/-- Reads a mark between documents, or the end of the text. -/
def boundary (l : Layout) : Except Fault Layout := do
  let l ← (l.unwind (-1)).dropCandidate
  return l.allowKey false

/-- Reads an opening bracket. -/
def opening (l : Layout) (t : Token) : Except Fault Layout := do
  let l ← l.keepCandidate
  return { l with brackets := l.candidate :: l.brackets, candidate := none, keyAllowed := true }
    |>.emit t |>.skip 1

/-- Reads a closing bracket. -/
def closing (l : Layout) (t : Token) : Except Fault Layout := do
  let l ← l.dropCandidate
  match l.brackets with
  | [] => .error .malformed
  | k :: brackets =>
    return { l with brackets := brackets, candidate := k, keyAllowed := false }
      |>.emit t |>.skip 1

/-- Reads a comma. -/
def comma (l : Layout) : Except Fault Layout := do
  let l ← l.dropCandidate
  return ((l.allowKey true).emit .comma).skip 1

/-- Reads the mark of an item of a block. -/
def item (l : Layout) : Except Fault Layout := do
  if !l.inFlow && !l.keyAllowed then .error .malformed
  else
    let l := if l.inFlow then l else l.openBlock l.cursor.column l.tokens.size .blockList
    let l ← l.dropCandidate
    return ((l.allowKey true).emit .item).skip 1

/-- Reads the mark of a key. -/
def key (l : Layout) : Except Fault Layout := do
  if !l.inFlow && !l.keyAllowed then .error .malformed
  else
    let l := if l.inFlow then l else l.openBlock l.cursor.column l.tokens.size .blockMap
    let l ← l.dropCandidate
    return ((l.allowKey (!l.inFlow)).emit .key).skip 1

/-- Reads the colon before a value. A candidate becomes the key. -/
def value (l : Layout) : Except Fault Layout := do
  match l.candidate with
  | some k =>
    let l := { l with candidate := none, tokens := l.tokens.insertIdxIfInBounds k.tokens .key }
    let l := if l.inFlow then l else l.openBlock k.column k.tokens .blockMap
    return ((l.allowKey false).emit .value).skip 1
  | none =>
    if !l.inFlow && !l.keyAllowed then .error .malformed
    else
      let l := if l.inFlow then l else l.openBlock l.cursor.column l.tokens.size .blockMap
      return ((l.allowKey (!l.inFlow)).emit .value).skip 1

/-- Reads what may start a key, by a reader of what follows its mark. -/
def propertyBy {α : Type} (l : Layout) (read : List Char → Except Fault (α × List Char))
    (t : α → Token) : Except Fault Layout := do
  let l ← l.keepCandidate
  let l := (l.allowKey false).skip 1
  let (a, rest) ← read l.cursor.rest
  return (l.upTo rest).emit (t a)

/-- Reads a quoted scalar. -/
def quotedScalar (l : Layout) (double : Bool) : Except Fault Layout :=
  l.propertyBy (fun cs => Yaml.quotedText double (cs.length + 1) cs)
    fun text => .scalar (.ofPoints text) false

/-- Reads a scalar that is a block. -/
def blockScalar (l : Layout) (fold : Bool) : Except Fault Layout := do
  let l ← (l.allowKey true).dropCandidate
  let (text, c) ← Yaml.block fold (max 1 (l.indent + 1).toNat) l.cursor.next
  return { l with cursor := c }.emit (.scalar (.whole (String.ofList text)) false)

/-- Reads a plain scalar. -/
def plainScalar (l : Layout) : Except Fault Layout := do
  let l ← l.keepCandidate
  let (text, c, left) :=
    Yaml.plainText l.inFlow (l.indent + 1).toNat (l.cursor.rest.length + 1) [] false l.cursor
  let text := Text.Loose.whole (String.ofList text)
  return { l with cursor := c, keyAllowed := left }.emit (.scalar text true)

/-- Whether a plain scalar may start with a character before another one. -/
def startsPlain (flow : Bool) (c : Char) (next : Option Char) : Bool :=
  if "-?:,[]\x7b\x7d#&*!|>'\"%@".toList.contains c || c = Char.ofNat 96 || isSpace c ||
      isBreak c then
    !endsWord next && (c = '-' || !flow && (c = '?' || c = ':'))
  else true

/-- Reads the token that stands at the cursor; nothing is left to do at the end of the text. -/
def token (l : Layout) : Except Fault (Option Layout) := do
  let c := l.cursor
  match c.rest with
  | [] => return none
  | ch :: cs =>
    let next := cs.head?
    if c.column = 0 && ch = '%' then
      let l ← l.boundary
      let (d, rest) ← directive cs
      match (l.cursor.upTo rest).skipIgnored? with
      | some c => return some ({ l with cursor := c }.emit (.directive d))
      | none => .error .malformed
    else if c.column = 0 && isSeparator c.rest then
      let l ← l.boundary
      return some ((l.emit (if ch = '-' then .documentStart else .documentEnd)).skip 3)
    else if ch = '[' then return some (← l.opening .openList)
    else if ch = '\x7b' then return some (← l.opening .openMap)
    else if ch = ']' then return some (← l.closing .closeList)
    else if ch = '\x7d' then return some (← l.closing .closeMap)
    else if ch = ',' then return some (← l.comma)
    else if ch = '-' && endsWord next then return some (← l.item)
    else if ch = '?' && (l.inFlow || endsWord next) then return some (← l.key)
    else if ch = ':' && (l.inFlow || endsWord next) then return some (← l.value)
    else if ch = '*' then return some (← l.propertyBy anchorName .alias)
    else if ch = '&' then return some (← l.propertyBy anchorName .anchor)
    else if ch = '!' then return some (← l.propertyBy Yaml.tag .tag)
    else if ch = '|' && !l.inFlow then return some (← l.blockScalar false)
    else if ch = '>' && !l.inFlow then return some (← l.blockScalar true)
    else if ch = '\'' then return some (← l.quotedScalar false)
    else if ch = '"' then return some (← l.quotedScalar true)
    else if startsPlain l.inFlow ch next then return some (← l.plainScalar)
    else .error .malformed

/-- The candidates of the block and of every open bracket. -/
def candidates (l : Layout) : List Candidate :=
  (l.candidate :: l.brackets).filterMap id

/-- How many tokens are settled: those before the first candidate. -/
def settled (l : Layout) : Nat :=
  (l.candidates.map (·.tokens)).foldl min l.tokens.size

/-- Goes to the next token. The candidates that are out of date there are dropped, and the blocks
that are indented further are ended. -/
def arrive (l : Layout) : Except Fault Layout := do
  let l ← (l.skipToToken (l.cursor.rest.length + 1)).dropStale
  return l.unwind l.cursor.column

end Layout

/-- The tokens of a text up to its first fault, or all of them. -/
structure Stream where
  tokens : List Token
  fault : Option Fault

namespace Stream

/-- The first tokens of a text, after which a fault stands. -/
def stopped (l : Layout) (count : Nat) (e : Fault) : Stream :=
  ⟨l.tokens.toList.take count, some e⟩

/-- All tokens of a text whose end was reached. `settled` of them were settled before. -/
def finished (l : Layout) (settled : Nat) : Stream :=
  match l.boundary with
  | .ok l => ⟨l.tokens.toList, none⟩
  | .error e => stopped l settled e

/-- The tokens of a text of which some were read; each takes a character at least. `settled` of
them are settled. -/
def ofLayout : (steps : Nat) → (settled : Nat) → Layout → Stream
  | 0, settled, l => finished l settled
  | steps + 1, settled, l =>
    match l.arrive with
    | .error e => stopped l settled e
    | .ok l =>
      match l.token with
      | .error e => stopped l settled e
      | .ok none => finished l settled
      | .ok (some next) =>
        match next.dropStale with
        | .error e => stopped next settled e
        | .ok l => ofLayout steps l.settled l

/-- Whether a character may stand in a YAML text. -/
def isAllowed (c : Char) : Bool :=
  let n := c.toNat
  c = '\t' || c = '\n' || (0x20 ≤ n && n ≤ 0x7E) || n = 0x85 ||
    (0xA0 ≤ n && n != 0xFFFE && n != 0xFFFF)

/-- The tokens of a text. A byte order mark may stand before them. -/
def ofChars (cs : List Char) : Stream :=
  if !cs.all isAllowed then ⟨[], some .malformed⟩
  else
    let l := Layout.start cs
    ofLayout (cs.length + 1) 0 (if cs.head? = some '\ufeff' then l.skip 1 else l)

end Stream
end LeakScan.Yaml
