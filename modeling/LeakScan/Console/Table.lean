import LeakScan.Console.Paragraph

/-!
# Tables

A table has a title and columns, each with a head and a text for every row. A column is as wide as
the widest of its texts, unless its width is set or limited. Where the table would be too wide, the
widest column whose width is not set gives way. Heavy lines frame the heads and light ones the rows;
the title stands in the middle above. Every line of a table is as wide as the table.
-/

set_option autoImplicit false

namespace LeakScan.Console

/-- A column of a table: its head, the side its texts go to, its width if that is set, the most its
width may be, and its text in every row. -/
structure Column where
  head : String
  side : Side
  set : Option Nat
  most : Option Nat
  texts : List (List Char)

/-- A table. -/
structure Table where
  title : String
  columns : List Column

namespace Column

/-- The width of the widest text of a column. -/
def natural (c : Column) : Nat :=
  ((c.head.toList :: c.texts).map widest).foldl max 0

/-- The width of a column where there is room for it. -/
def width (c : Column) : Nat :=
  match c.set, c.most with
  | some n, _ => n
  | none, some n => min n c.natural
  | none, none => c.natural

end Column

namespace Table

/-- The cells that the lines of a frame and the spaces beside the texts of columns take. -/
def frameWidth (columns : Nat) : Nat := 3 * columns + 1

/-- The widths of some columns, of which the widest that is not set gives `excess` up. -/
def narrowed (excess : Nat) (cs : List Column) : List Nat :=
  let most := ((cs.filter (·.set.isNone)).map (·.width)).foldl max 0
  cs.map fun c => if c.set.isNone && c.width = most then c.width - excess else c.width

/-- The widths of the columns of a table that may be `most` wide. -/
def widths (most : Nat) (t : Table) : List Nat :=
  let needed := (t.columns.map (·.width)).foldl (· + ·) (frameWidth t.columns.length)
  narrowed (needed - most) t.columns

/-- A line of a frame: `fill` under each column and `between` where columns meet. -/
def rule (start fill between stop : Char) (widths : List Nat) : List Char :=
  start :: [between].intercalate (widths.map fun n => List.replicate (n + 2) fill) ++ [stop]

/-- A line of texts between the lines of a frame. -/
def textLine (bar : Char) (texts : List (List Char)) : List Char :=
  bar :: [bar].intercalate (texts.map fun l => ' ' :: l ++ [' ']) ++ [bar]

/-- The lines of a row of cells, each with its width and its lines. -/
def rowLines (bar : Char) (cells : List (Nat × List (List Char))) : List (List Char) :=
  let height := (cells.map fun cell => cell.2.length).foldl max 1
  (List.range height).map fun i =>
    textLine bar (cells.map fun (n, lines) => lines[i]?.getD (blanks n))

/-- The cells of a row: for each column its width there and the lines of its text. -/
def cells (widths : List Nat) (t : Table) (textOf : Column → List Char) :
    List (Nat × List (List Char)) :=
  List.zipWith (fun n c => (n, paragraph n c.side (textOf c))) widths t.columns

/-- The number of rows. -/
def height (t : Table) : Nat := (t.columns.map (·.texts.length)).foldl max 0

/-- A line in the middle of a width. -/
def centred (n : Nat) (cs : List Char) : List Char :=
  padded n (blanks ((n - Console.width cs) / 2) ++ cs)

/-- The lines of a table that may be `most` wide. -/
def lines (most : Nat) (t : Table) : List (List Char) :=
  let widths := t.widths most
  let top := rule '┏' '━' '┳' '┓' widths
  centred (Console.width top) t.title.toList :: top ::
    rowLines '┃' (t.cells widths (·.head.toList)) ++
    rule '┡' '━' '╇' '┩' widths ::
    (List.range t.height).flatMap
      (fun i => rowLines '│' (t.cells widths fun c => c.texts[i]?.getD [])) ++
    [rule '└' '─' '┴' '┘' widths]

end Table
end LeakScan.Console
