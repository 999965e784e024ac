/-
# Grids

A grid shows rows of cells between lines.  A column is as wide as its widest cell, a row as high
as its highest, and shorter cells are filled up with spaces.  The lines of a cell stay aligned at
their start, also where the cell stands at the end of the column.  A line separates the header
from the rows, which have no lines between them.

On a terminal with colours every part of the grid starts without any style, and the header is
bold.
-/
import NodeDemand.Report.Paint
import NodeDemand.Text.Escape
import NodeDemand.Text.Lines

namespace NodeDemand.Report

/-- A cell of a grid. -/
structure GridCell where
  /-- The lines of the cell. -/
  lines : List (List Char)
  /-- Whether the cell stands at the end, rather than at the start, of the column. -/
  toRight : Bool := false
  /-- The style of the cell, on a terminal with colours. -/
  style : Option Paint := none
deriving DecidableEq, Repr

/-- A cell with a text. -/
def GridCell.ofText (s : List Char) : GridCell := { lines := Text.lines s }

namespace Grid

/-- The columns of a text, escape sequences apart.  Letters alone end control sequences. -/
def shownWidth (s : List Char) : Nat := Text.glyphsWidth (Text.glyphs Char.isAlpha s)

/-- The columns that a cell needs. -/
def cellWidth (cell : GridCell) : Nat := (cell.lines.map shownWidth).foldl max 0

/-- The widths of the columns of rows. -/
def widths : List (List GridCell) → List Nat
  | [] => []
  | [row] => row.map cellWidth
  | row :: rest => (row.map cellWidth).zipWith max (widths rest)

/-- A text that starts and ends without style. -/
def part (colored : Bool) (s : List Char) : List Char :=
  if colored then plain ++ s ++ plain else s

/-- A line of a cell, filled up to the width of the column. -/
def fillCell (cell : GridCell) (width : Nat) (s : List Char) : List Char :=
  let before := if cell.toRight then width - cellWidth cell else 0
  List.replicate before ' ' ++ s ++ List.replicate (width - before - shownWidth s) ' '

/-- A line of a cell, filled up and with a space on both sides. -/
def cellLine (colored : Bool) (cell : GridCell) (width : Nat) (s : List Char) : List Char :=
  let body := fillCell cell width s
  let body := if colored then plain ++ plain ++ cell.style.elim [] Paint.on ++ body else body
  part colored [' '] ++ body ++ part colored [' ']

/-- Parts between bars. -/
def between (colored : Bool) (bar : Char) (parts : List (List Char)) : List Char :=
  part colored [bar] ++ parts.flatMap (· ++ part colored [bar])

/-- The end of a line that completes a row. -/
def rowEnd (colored : Bool) : List Char := '\n' :: if colored then plain else []

/-- A line across the grid. -/
def rule (colored : Bool) (widths : List Nat) : List Char :=
  between colored '+' (widths.map fun n => part colored (List.replicate (n + 2) '-')) ++
    rowEnd colored

/-- The number of lines of a row. -/
def height (row : List GridCell) : Nat := (row.map (·.lines.length)).foldl max 0

/-- A line of a row. -/
def rowLine (colored : Bool) (widths : List Nat) (row : List GridCell) (i : Nat) : List Char :=
  between colored '|'
    (row.zipWith (fun cell width => cellLine colored cell width (cell.lines.getD i [])) widths)

/-- A row. -/
def row (colored : Bool) (widths : List Nat) (cells : List GridCell) : List Char :=
  Text.joinWith ['\n'] ((List.range (height cells)).map (rowLine colored widths cells)) ++
    rowEnd colored

/-- The text of a grid. -/
def write (colored : Bool) (header : List GridCell) (rows : List (List GridCell)) : List Char :=
  let widths := widths (header :: rows)
  rule colored widths ++ row colored widths header ++ rule colored widths ++
    rows.flatMap (row colored widths) ++ rule colored widths

end Grid

end NodeDemand.Report
