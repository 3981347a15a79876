import LeakScan.Console.Width
import LeakScan.Text.Part

/-!
# Paragraphs

How a text is laid out in lines of a width. Words go on a line while they fit, each with the blanks
after it. A word wider than a line is cut: it ends in an ellipsis, or it goes on on the next lines.
Blanks beyond the width at the end of a line are dropped, and a tab goes on to the next column that
is a multiple of eight.
-/

set_option autoImplicit false

namespace LeakScan.Console

/-- The pieces of a line between its tabs with spaces for the tabs. `column` is where they begin. -/
def untabbedFrom (column : Nat) : List (List Char) → List Char
  | [] => []
  | [cs] => cs
  | cs :: rest =>
    let cs := cs ++ [' ']
    let column := column + width cs
    let more := (8 - column % 8) % 8
    cs ++ blanks more ++ untabbedFrom (column + more) rest

/-- A line with spaces for its tabs. -/
def untabbed (cs : List Char) : List Char := untabbedFrom 0 (Text.split '\t' cs)

/-- The words of a line, each with the blanks after it, and the first with those before it.
`current` holds the word being read, last character first; `seen` says that it has a character that
is not blank, and `closing` that a blank came after it. -/
def wordsFrom (seen closing : Bool) (current : List Char) : List Char → List (List Char)
  | [] => if seen then [current.reverse] else []
  | c :: cs =>
    if Text.isBlank c then wordsFrom seen seen (c :: current) cs
    else if closing then current.reverse :: wordsFrom true false [c] cs
    else wordsFrom true false (c :: current) cs

/-- The words of a line. -/
def words (cs : List Char) : List (List Char) := wordsFrom false false [] cs

/-- What becomes of a word that is wider than a line: it is cut off, or it is cut into pieces, each
on a line of its own. -/
inductive Overflow where
  | ellipsis
  | fold
deriving DecidableEq, Repr

/-- The pieces of a word that is wider than a line. -/
def Overflow.piecesOf (n : Nat) (w : List Char) : Overflow → List (List Char)
  | ellipsis => [w]
  | fold => chopped n w

/-- Adds lines to the ones of a paragraph, of which the last is still being made: an empty one is
made by the first that is added. -/
def addLines (current : List Char) (ls : List (List Char)) : List (List Char) :=
  if current.isEmpty then ls else current :: ls

/-- Packs words into lines of a width, the first of them onto `current`, which is `size` wide. -/
def pack (o : Overflow) (n : Nat) (current : List Char) (size : Nat) :
    List (List Char) → List (List Char)
  | [] => [current]
  | w :: ws =>
    let need := width (Text.dropEndWhile Text.isBlank w)
    if size + need ≤ n then pack o n (current ++ w) (size + width w) ws
    else if need ≤ n then addLines current (pack o n w (width w) ws)
    else
      let pieces := o.piecesOf n w
      let last := pieces.getLastD w
      addLines current (pieces.dropLast ++ pack o n last (width last) ws)

/-- A line cut to a width if it is wider: one that is cut off ends in an ellipsis. -/
def Overflow.cut (n : Nat) (cs : List Char) (o : Overflow) : List Char :=
  if n < width cs then
    match o with
    | ellipsis => fitted (n - 1) cs ++ ['…']
    | fold => fitted n cs
  else cs

/-- A line without those blanks at its end that go beyond a number of characters. -/
def cropped (n : Nat) (cs : List Char) : List Char :=
  let kept := (Text.dropEndWhile Text.isBlank cs).length
  cs.take (max kept (min n cs.length))

/-- The lines of a width that a line without tabs is broken into. -/
def broken (o : Overflow) (n : Nat) (cs : List Char) : List (List Char) :=
  match words cs with
  | [] => [cropped n cs]
  | ws => (pack o n [] 0 ws).map (cropped n)

/-- The lines of a width that a text is broken into. -/
def brokenLines (o : Overflow) (n : Nat) (cs : List Char) : List (List Char) :=
  (Text.lines cs).flatMap fun l => broken o n (untabbed l)

/-- The lines in which a text is shown on its own. -/
def message (n : Nat) (cs : List Char) : List (List Char) :=
  (brokenLines .fold n cs).map (Overflow.fold.cut n)

/-- To which side of its width a text goes. -/
inductive Side where
  | left
  | right
deriving DecidableEq, Repr

/-- A line put to a side of a width. -/
def Side.put (n : Nat) (cs : List Char) : Side → List Char
  | left => padded n (Overflow.ellipsis.cut n cs)
  | right =>
    let cs := Overflow.ellipsis.cut n (Text.dropEndWhile Text.isBlank cs)
    blanks (n - width cs) ++ cs

/-- The lines of a width in which a text is shown in a cell of a table. What is still narrower then,
because it ends in a joiner, is filled up. -/
def paragraph (n : Nat) (side : Side) (cs : List Char) : List (List Char) :=
  (brokenLines .ellipsis n cs).map fun l => padded n (side.put n l)

/-- Whether a line ends at a character when the width of a text is taken. -/
def endsLine (c : Char) : Bool :=
  c = '\n' || (28 ≤ c.toNat && c.toNat ≤ 30) || c.toNat = 0x85 || c = '\u2028' || c = '\u2029'

/-- The width of the widest line of a text. -/
def widest (cs : List Char) : Nat := ((cs.splitOnP endsLine).map width).foldl max 0

example : paragraph 4 .left "ab cd abcdef\ne".toList =
    ["ab  ".toList, "cd  ".toList, "abc…".toList, "e   ".toList] := by decide +kernel

example : paragraph 4 .right "12".toList = ["  12".toList] := by decide +kernel

example : message 4 "ab abcdefg".toList = ["ab ".toList, "abcd".toList, "efg".toList] := by
  decide +kernel

end LeakScan.Console
