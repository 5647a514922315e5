import GuestImage.Text.Cluster

/-!
# Lines and grids

A text is cut at its line feeds, which belong to no line; an empty text has one empty line.

A grid is a table without rules: every column is as wide as its widest line, and every cell is
written with one space on both sides. Rows may have different numbers of cells; what is missing is
empty. A cell of several lines makes its row as high.
-/

namespace GuestImage.Text

/-- The lines of a list of characters. -/
def linesOf : (letters : List Char) → List (List Char)
  | [] => [[]]
  | letter :: rest =>
      if letter = '\n' then [] :: linesOf rest
      else
        match linesOf rest with
        | [] => [[letter]]
        | first :: others => (letter :: first) :: others

/-- The lines of a text. -/
def lines (text : String) : List String :=
  (linesOf text.toList).map String.ofList

/-! ## Grids -/

/-- A table of cells. The header is a row like the others. -/
structure Grid where
  rows : List (List String)
  deriving DecidableEq, Repr

namespace Grid

/-- The grid with this header and these rows below it. -/
def of (header : List String) (rows : List (List String)) : Grid :=
  ⟨header :: rows⟩

/-- The number of columns: as many as the longest row has cells. -/
def columnCount (grid : Grid) : Nat :=
  (grid.rows.map List.length).foldl max 0

/-- The columns that the widest line of a cell takes. -/
def cellWidth (cell : String) : Nat :=
  ((Text.lines cell).map width).foldl max 0

/-- The width of each column, which is at least one. -/
def columnWidths (grid : Grid) : List Nat :=
  (List.range grid.columnCount).map fun column =>
    (grid.rows.map fun row => cellWidth (row.getD column "")).foldl max 1

/-- One line of a cell, padded to the width of its column and with a space on both sides. -/
def padLine (columns : Nat) (line : String) : String :=
  " " ++ line ++ String.ofList (List.replicate (columns - width line) ' ') ++ " "

/-- The lines of one row. -/
def rowLines (widths : List Nat) (row : List String) : List String :=
  let cells := (List.range widths.length).map fun column => Text.lines (row.getD column "")
  let height := (cells.map List.length).foldl max 0
  (List.range height).map fun index =>
    String.join ((widths.zip cells).map fun (columns, cellLines) =>
      padLine columns (cellLines.getD index ""))

/-- All lines of a grid, from top to bottom. -/
def lines (grid : Grid) : List String :=
  grid.rows.flatMap (rowLines grid.columnWidths)

/-- A grid as one text, without a line break at the end. -/
def render (grid : Grid) : String :=
  String.intercalate "\n" grid.lines

end Grid

end GuestImage.Text
