/-
# Writing the job table

Cells are followed by spaces up to the width of a column in bytes, and rows end in a line feed.  A
job is written as one row with a cell for every column.
-/
import NodeDemand.Table.Reader
import NodeDemand.Tres.Writer

namespace NodeDemand

/-- The cell of a job in a column. -/
def Column.cell (column : Column) (job : Job) : String :=
  match column with
  | id => job.id
  | state => job.state.code
  | nodes => Decimal.text job.nodes.toNat
  | cpusTotal => Decimal.text job.cpusTotal.toNat
  | tasks => Decimal.text job.tasks.toNat
  | cpusPerTask => Decimal.text job.cpusPerTask.toNat
  | cpusMinPerNode => Decimal.text job.cpusMinPerNode.toNat
  | pendingReason => job.pendingReason
  | tresPerJob => job.tresPerJob.text
  | tresPerTask => job.tresPerTask.text
  | tresPerNode => job.tresPerNode.text

namespace Table

/-- The size of a text in bytes of UTF-8. -/
def byteSize (s : List Char) : Nat := s.foldr (fun c n => c.utf8Size + n) 0

/-- A cell followed by spaces up to the width of a column. -/
def padCell (cell : String) : List Char :=
  cell.toList ++ List.replicate (cellWidth - byteSize cell.toList) ' '

/-- A row, with its line end. -/
def writeRow (row : List String) : List Char := row.flatMap padCell ++ ['\n']

/-- The text of a table that is given by the cells of its header and rows. -/
def writeGrid (rows : List (List String)) : String := String.ofList (rows.flatMap writeRow)

/-- The header row. -/
def headerRow : List String := Column.all.map Column.header

/-- The row of a job. -/
def jobRow (job : Job) : List String := Column.all.map (·.cell job)

/-- The table of a list of jobs. -/
def write (jobs : List Job) : String := writeGrid (headerRow :: jobs.map jobRow)

end Table

end NodeDemand
