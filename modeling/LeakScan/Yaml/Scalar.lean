import LeakScan.Yaml.Cursor
import LeakScan.Yaml.Fault

/-!
# Scalars of a YAML text

A scalar is written plain, between quotes, or as an indented block. A line break inside a plain or
quoted scalar stands for a space, and each further break for a newline. A block keeps its breaks
or folds those between lines of text; its last breaks are kept, cut to one, or dropped.

Every step of a reader takes a character, so the length of what is left bounds its steps.
-/

set_option autoImplicit false

namespace LeakScan.Yaml

/-- What a line break and the breaks after it stand for where lines are folded. -/
def folded (first : Char) (breaks : List Char) : List Char :=
  if lineBreak first != '\n' then lineBreak first :: breaks
  else if breaks.isEmpty then [' ']
  else breaks

/-! ## Quoted scalars -/

/-- Reads the breaks and spaces after a line break of a quoted scalar; a mark between documents
may not stand there. -/
def quotedBreaks (atLineStart : Bool) : List Char → Except Fault (List Char × List Char)
  | [] => .ok ([], [])
  | c :: cs =>
    if atLineStart && isSeparator (c :: cs) then .error .malformed
    else if isSpace c then quotedBreaks false cs
    else if isBreak c then
      match quotedBreaks true cs with
      | .ok (breaks, rest) => .ok (lineBreak c :: breaks, rest)
      | .error e => .error e
    else .ok ([], c :: cs)

/-- Reads the spaces and breaks inside a quoted scalar. -/
def quotedSpaces (cs : List Char) : Except Fault (List Char × List Char) :=
  match cs.dropWhile isSpace with
  | [] => .error .malformed
  | c :: rest =>
    if isBreak c then
      match quotedBreaks true rest with
      | .ok (breaks, rest) => .ok (folded c breaks, rest)
      | .error e => .error e
    else .ok (cs.takeWhile isSpace, c :: rest)

/-- The character that a letter stands for after a backslash. -/
def escaped? : Char → Option Char
  | '0' => some '\x00'
  | 'a' => some '\x07'
  | 'b' => some '\x08'
  | 't' => some '\t'
  | '\t' => some '\t'
  | 'n' => some '\n'
  | 'v' => some '\x0b'
  | 'f' => some '\x0c'
  | 'r' => some '\r'
  | 'e' => some '\x1b'
  | ' ' => some ' '
  | '"' => some '"'
  | '\\' => some '\\'
  | '/' => some '/'
  | 'N' => some '\x85'
  | '_' => some '\xa0'
  | 'L' => some '\u2028'
  | 'P' => some '\u2029'
  | _ => none

/-- The number of hexadecimal digits that a letter announces after a backslash. -/
def codeLength? : Char → Option Nat
  | 'x' => some 2
  | 'u' => some 4
  | 'U' => some 8
  | _ => none

/-- Reads a code point of some hexadecimal digits. -/
def codePoint (value : Nat) : (digits : Nat) → List Char → Except Fault (Nat × List Char)
  | 0, cs => .ok (value, cs)
  | _ + 1, [] => .error .malformed
  | n + 1, c :: cs =>
    match Text.hexDigit? c with
    | some d => codePoint (16 * value + d) n cs
    | none => .error .malformed

/-- Reads what follows a backslash. -/
def escape : List Char → Except Fault (List Text.CodePoint × List Char)
  | [] => .error .malformed
  | c :: cs =>
    match escaped? c, codeLength? c with
    | some e, _ => .ok ([.char e], cs)
    | none, some digits => do
      let (code, cs) ← codePoint 0 digits cs
      if 0x10FFFF < code then .error (.codePoint code) else .ok ([.ofNat code], cs)
    | none, none =>
      if isBreak c then do
        let (breaks, cs) ← quotedBreaks true cs
        return (breaks.map .char, cs)
      else .error .malformed

/-- Reads a quoted scalar up to its closing quote. Between single quotes a quote is written
twice; between double quotes a backslash starts an escape. -/
def quotedText (double : Bool) : (steps : Nat) → List Char →
    Except Fault (List Text.CodePoint × List Char)
  | 0, _ => .error .malformed
  | _ + 1, [] => .error .malformed
  | steps + 1, c :: cs =>
    let more (taken : List Text.CodePoint) (rest : List Char) := do
      let (text, rest) ← quotedText double steps rest
      return (taken ++ text, rest)
    if isSpace c || isBreak c then do
      let (spaces, rest) ← quotedSpaces (c :: cs)
      more (spaces.map .char) rest
    else if double then
      if c = '"' then .ok ([], cs)
      else if c = '\\' then do
        let (ps, rest) ← escape cs
        more ps rest
      else more [.char c] cs
    else if c = '\'' then
      match cs with
      | '\'' :: rest => more [.char '\''] rest
      | _ => .ok ([], cs)
    else more [.char c] cs

/-! ## Plain scalars -/

/-- Whether a character is a bracket or comma of a flow collection. -/
def isFlowMark (c : Char) : Bool :=
  c = ',' || c = '[' || c = ']' || c = '\x7b' || c = '\x7d'

/-- The word of a plain scalar that starts a text. Inside brackets, flow marks end it too. -/
def plainWord (flow : Bool) : List Char → List Char
  | [] => []
  | c :: cs =>
    if isSpace c || isBreak c then []
    else if c = ':' && (endsWord cs.head? || flow && cs.head?.any isFlowMark) then []
    else if flow && (c = '?' || isFlowMark c) then []
    else c :: plainWord flow cs

/-- Reads the breaks and spaces after a line break of a plain scalar. Nothing comes of it if they
end at a mark between documents. -/
def plainBreaks : (steps : Nat) → Cursor → Option (List Char) × Cursor
  | 0, c => (some [], c)
  | steps + 1, c =>
    match c.peek with
    | none => (some [], c)
    | some ch =>
      if ch = ' ' then plainBreaks steps c.next
      else if isBreak ch then
        if isSeparator c.next.rest then (none, c.next)
        else
          let (breaks, c) := plainBreaks steps c.next
          (breaks.map (lineBreak ch :: ·), c)
      else (some [], c)

/-- Reads what separates two words of a plain scalar, and whether the line was left. No separator
is read where the scalar ends at a mark between documents. -/
def plainSpaces (c : Cursor) : List Char × Cursor × Bool :=
  let blanks := c.rest.takeWhile (· = ' ')
  let c := c.forward blanks.length
  match c.peek with
  | none => (blanks, c, false)
  | some ch =>
    if !isBreak ch then (blanks, c, false)
    else if isSeparator c.next.rest then ([], c.next, true)
    else
      let (breaks, c) := plainBreaks c.rest.length c.next
      ((breaks.map (folded ch)).getD [], c, true)

/-- Reads a plain scalar inside brackets or in a block of an indentation, and whether it left the
line after its last word. `between` separates it from what was read before. -/
def plainText (flow : Bool) (indent : Nat) : (steps : Nat) → (between : List Char) →
    (left : Bool) → Cursor → List Char × Cursor × Bool
  | 0, _, left, c => ([], c, left)
  | steps + 1, between, left, c =>
    let word := plainWord flow c.rest
    if c.peek = some '#' || word.isEmpty then ([], c, left)
    else
      let (spaces, c, left) := plainSpaces (c.forward word.length)
      if spaces.isEmpty || c.peek = some '#' || (!flow && c.column < indent) then
        (between ++ word, c, left)
      else
        let (text, c, left) := plainText flow indent steps spaces left c
        (between ++ word ++ text, c, left)

/-! ## Blocks -/

/-- What becomes of the breaks at the end of a block. -/
inductive Chomping where
  | drop
  | one
  | keep
deriving DecidableEq, Repr

def chomping? : Char → Option Chomping
  | '+' => some .keep
  | '-' => some .drop
  | _ => none

/-- The value of a digit that gives the indentation of a block. -/
def indentation? (c : Char) : Option Nat := Text.asciiDigit? c

/-- The head of a block: what becomes of the last breaks, and its indentation if it is given. -/
structure BlockHead where
  chomping : Chomping
  indentation : Option Nat

/-- Reads the head of a block after its mark. -/
def blockHead (cs : List Char) : Except Fault (BlockHead × List Char) :=
  let (head, rest) : BlockHead × List Char :=
    match cs with
    | [] => (⟨.one, none⟩, [])
    | c :: rest =>
      match chomping? c, indentation? c with
      | some k, _ =>
        match rest.head?.bind indentation? with
        | some n => (⟨k, some n⟩, rest.tail)
        | none => (⟨k, none⟩, rest)
      | none, some n =>
        match rest.head?.bind chomping? with
        | some k => (⟨k, some n⟩, rest.tail)
        | none => (⟨.one, some n⟩, rest)
      | none, none => (⟨.one, none⟩, c :: rest)
  if head.indentation = some 0 || !endsField rest.head? then .error .malformed
  else .ok (head, rest)

/-- Reads empty lines of a block of a column, up to the column in the line after them. -/
def blockBreaks (column : Nat) : (steps : Nat) → Cursor → List Char × Cursor
  | 0, c => ([], c)
  | steps + 1, c =>
    let c := c.skipSpacesTo column
    match c.peek with
    | none => ([], c)
    | some ch =>
      if isBreak ch then
        let (breaks, c) := blockBreaks column steps c.next
        (lineBreak ch :: breaks, c)
      else ([], c)

/-- Reads the empty lines at the start of a block, and the widest column that spaces reach. -/
def blockIndentation : (steps : Nat) → (widest : Nat) → Cursor → List Char × Nat × Cursor
  | 0, widest, c => ([], widest, c)
  | steps + 1, widest, c =>
    match c.peek with
    | none => ([], widest, c)
    | some ch =>
      if ch = ' ' then blockIndentation steps (max widest c.next.column) c.next
      else if isBreak ch then
        let (breaks, widest, c) := blockIndentation steps widest c.next
        (lineBreak ch :: breaks, widest, c)
      else ([], widest, c)

/-- Whether a line of a block folds into the next: neither may start with a space. -/
def foldsWith (fold : Bool) (first breakChar next : Option Char) : Bool :=
  fold && breakChar.map lineBreak = some '\n' && !first.any isSpace && !next.any isSpace

/-- Reads the lines of a block of a column. `breaks` are those read before the line. -/
def blockLines (fold : Bool) (chomping : Chomping) (column : Nat) : (steps : Nat) →
    (breaks : List Char) → Cursor → List Char × Cursor
  | 0, _, c => ([], c)
  | steps + 1, breaks, c =>
    let line := c.rest.takeWhile (!isBreak ·)
    let stop := c.forward line.length
    let own := stop.peek
    let (after, next) := blockBreaks column (stop.rest.length + 1) stop.skipBreak
    let ownBreak := own.toList.map lineBreak
    if next.column = column && next.peek.isSome then
      let join :=
        if foldsWith fold c.peek own next.peek then
          (if after.isEmpty then [' '] else [])
        else ownBreak
      let (text, c) := blockLines fold chomping column steps after next
      (breaks ++ line ++ join ++ text, c)
    else
      let tail := match chomping with
        | .drop => []
        | .one => ownBreak
        | .keep => ownBreak ++ after
      (breaks ++ line ++ tail, next)

/-- Reads a block after its mark. `indent` is the least column its lines may have. -/
def block (fold : Bool) (indent : Nat) (c : Cursor) : Except Fault (List Char × Cursor) := do
  let (head, rest) ← blockHead c.rest
  match (c.upTo rest).skipIgnored? with
  | none => .error .malformed
  | some c =>
    let steps := c.rest.length + 1
    let (breaks, column, c) :=
      match head.indentation with
      | none =>
        let (breaks, widest, c) := blockIndentation steps 0 c
        (breaks, max indent widest, c)
      | some n =>
        let column := indent + n - 1
        let (breaks, c) := blockBreaks column steps c
        (breaks, column, c)
    if c.column = column && c.peek.isSome then
      return blockLines fold head.chomping column steps breaks c
    else
      return (if head.chomping = .keep then breaks else [], c)

end LeakScan.Yaml
