/-!
# Places in a YAML text

A cursor stands at a place of a text and knows what follows, how many characters came before, and
the line and column of the place. Lines end at a newline, at the next-line character and at the
line and paragraph separators. The byte order mark takes no column.
-/

set_option autoImplicit false

namespace LeakScan.Yaml

/-- Whether a character ends a line. -/
def isBreak (c : Char) : Bool :=
  c = '\n' || c = '\x85' || c = '\u2028' || c = '\u2029'

/-- What a line break stands for in a text: the two separators for themselves, the others for a
newline. -/
def lineBreak (c : Char) : Char :=
  if c = '\u2028' || c = '\u2029' then c else '\n'

/-- Whether a character is a space or a tab. -/
def isSpace (c : Char) : Bool := c = ' ' || c = '\t'

/-- Whether a line ends where a character, or no character, follows. -/
def endsLine (c : Option Char) : Bool := c.all isBreak

/-- Whether a field of a line ends where a character, or no character, follows. -/
def endsField (c : Option Char) : Bool := c.all fun c => c = ' ' || isBreak c

/-- Whether a word ends where a character, or no character, follows. -/
def endsWord (c : Option Char) : Bool := c.all fun c => isSpace c || isBreak c

/-- Whether one of the marks between documents starts a text. -/
def isSeparator : List Char → Bool
  | '-' :: '-' :: '-' :: cs => endsWord cs.head?
  | '.' :: '.' :: '.' :: cs => endsWord cs.head?
  | _ => false

/-- A place in a text. -/
structure Cursor where
  rest : List Char
  offset : Nat
  line : Nat
  column : Nat
deriving Repr

namespace Cursor

/-- The first place of a text. -/
def start (cs : List Char) : Cursor := ⟨cs, 0, 0, 0⟩

/-- The character at a place. -/
def peek (c : Cursor) : Option Char := c.rest.head?

/-- The place after one character. -/
def next (c : Cursor) : Cursor :=
  match c.rest with
  | [] => c
  | ch :: cs =>
    if isBreak ch then ⟨cs, c.offset + 1, c.line + 1, 0⟩
    else ⟨cs, c.offset + 1, c.line, if ch = '\ufeff' then c.column else c.column + 1⟩

/-- The place after some characters. -/
def forward (c : Cursor) : Nat → Cursor
  | 0 => c
  | n + 1 => c.next.forward n

/-- The place where a later rest of the text starts. -/
def upTo (c : Cursor) (rest : List Char) : Cursor :=
  c.forward (c.rest.length - rest.length)

/-- The place after the characters that satisfy `p`. -/
def skipWhile (c : Cursor) (p : Char → Bool) : Cursor :=
  c.forward (c.rest.takeWhile p).length

/-- The place after spaces, but at most at a column. -/
def skipSpacesTo (c : Cursor) (column : Nat) : Cursor :=
  c.forward (min (column - c.column) (c.rest.takeWhile (· = ' ')).length)

/-- The end of the line. -/
def lineEnd (c : Cursor) : Cursor := c.skipWhile (!isBreak ·)

/-- The place after the line break that stands here, if one does. -/
def skipBreak (c : Cursor) : Cursor :=
  if c.peek.any isBreak then c.next else c

/-- Skips the rest of a line that holds nothing but spaces and a comment, with its break. -/
def skipIgnored? (c : Cursor) : Option Cursor :=
  let c := c.skipWhile (· = ' ')
  let c := if c.peek = some '#' then c.lineEnd else c
  if endsLine c.peek then some c.skipBreak else none

end Cursor
end LeakScan.Yaml
