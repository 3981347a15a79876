import LeakScan.Console.Cells
import LeakScan.Text.Blank

/-!
# Widths on a console

The cells that a line takes. A joiner makes one picture of the characters around it, so the one
after it takes no cell of its own, and a picture mark widens the last character that takes a cell,
if that is one that widens. Characters that are shown as one are not cut apart.
-/

set_option autoImplicit false

namespace LeakScan.Console

/-- Joins the characters around it. -/
def joiner : Char := '\u200d'

/-- Makes a picture of the character before it. -/
def pictureMark : Char := '\ufe0f'

/-- What the cells of a character depend on: whether it is joined to the one before, and the last
character that takes a cell and was not widened. -/
structure Context where
  isJoined : Bool
  last : Option Char

namespace Context

/-- Before the first character. -/
def start : Context := ⟨false, none⟩

/-- The cells that a character takes, and what those of the next one depend on. -/
def step (x : Context) (c : Char) : Nat × Context :=
  if x.isJoined then (0, ⟨false, x.last⟩)
  else if c = joiner then (0, ⟨true, x.last⟩)
  else if c = pictureMark then (if x.last.any widens then 1 else 0, ⟨false, none⟩)
  else (charWidth c, ⟨false, if charWidth c = 0 then x.last else some c⟩)

/-- The cells that a line takes. -/
def width (x : Context) : List Char → Nat
  | [] => 0
  | c :: cs => (x.step c).1 + width (x.step c).2 cs

end Context

/-- The cells that a line takes. -/
def width (cs : List Char) : Nat := Context.start.width cs

/-- Spaces. -/
def blanks (n : Nat) : List Char := List.replicate n ' '

/-- A line with spaces after it up to a width, if it is narrower. -/
def padded (n : Nat) (cs : List Char) : List Char :=
  cs ++ blanks (n - width cs)

/-- Characters that are shown as one, and the cells that they take. -/
structure Cluster where
  chars : List Char
  cells : Nat
deriving DecidableEq, Repr

/-- Whether a character never starts a cluster but the first. -/
def isMark (c : Char) : Bool := c = joiner || c = pictureMark

/-- The clusters of a line that goes on after `current`, whose characters are last first. -/
def clustersAfter (x : Context) (current : Cluster) : List Char → List Cluster
  | [] => [⟨current.chars.reverse, current.cells⟩]
  | c :: cs =>
    let n := (x.step c).1
    if x.isJoined || isMark c || n = 0 then
      clustersAfter (x.step c).2 ⟨c :: current.chars, current.cells + n⟩ cs
    else ⟨current.chars.reverse, current.cells⟩ :: clustersAfter (x.step c).2 ⟨[c], n⟩ cs

/-- The clusters of a line. A mark that nothing stands before does nothing. -/
def clusters : List Char → List Cluster
  | [] => []
  | c :: cs =>
    if isMark c then clustersAfter .start ⟨[c], 0⟩ cs
    else clustersAfter (Context.start.step c).2 ⟨[c], charWidth c⟩ cs

/-- As much from the front of a line as fits into a width. A space stands for the half of a cluster
that does not fit as a whole. -/
def front : (n : Nat) → List Cluster → List Char
  | 0, _ => []
  | _, [] => []
  | n, g :: gs => if g.cells ≤ n then g.chars ++ front (n - g.cells) gs else [' ']

/-- A line cut or filled with spaces to a width. -/
def fitted (n : Nat) (cs : List Char) : List Char :=
  if width cs ≤ n then padded n cs else front n (clusters cs)

/-- The pieces of a width that some clusters are cut into, after some of `size` cells; `line` holds
the characters of the piece being made. -/
def choppedAfter (n size : Nat) (line : List Char) : List Cluster → List (List Char)
  | [] => if size = 0 then [] else [line]
  | g :: gs =>
    if n < size + g.cells then line :: choppedAfter n g.cells g.chars gs
    else choppedAfter n (size + g.cells) (line ++ g.chars) gs

/-- The pieces of a width that a line is cut into. -/
def chopped (n : Nat) (cs : List Char) : List (List Char) := choppedAfter n 0 [] (clusters cs)

example : width "aé漢".toList = 4 ∧ width "👩\u200d💻".toList = 2 ∧ width "❤\ufe0f".toList = 2 := by
  decide +kernel

example : fitted 4 "漢字!".toList = "漢字".toList ∧ fitted 3 "漢字".toList = "漢 ".toList ∧
    chopped 3 "漢字!".toList = ["漢".toList, "字!".toList] := by decide +kernel

end LeakScan.Console
