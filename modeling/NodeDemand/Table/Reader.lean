/-
# Reading the job table

The first line that is not blank is the header; it says which columns stand where, and a header
that occurs twice counts where it occurs last.  Every further line that is not blank is a row and
describes one job.  Columns that the library does not know are passed over, and so are columns
that the table lacks, except for the one with the job's name.

The cells of a row are read in the order in which columns are requested, not in the order in which
they stand.  A policy says what a cell that cannot be read does to the table.
-/
import NodeDemand.Reported
import NodeDemand.Table.Cells
import NodeDemand.Table.Column
import NodeDemand.Text.Lines

namespace NodeDemand

/-- What a cell that cannot be read does to its table. -/
inductive Policy where
  /-- The table is refused. -/
  | reject
  /-- The row is left out. -/
  | skipJob
  /-- The attribute keeps its default, which is zero or no resources. -/
  | default
deriving DecidableEq, Repr

/-- The name of a policy. -/
def Policy.name : Policy → String
  | reject => "reject"
  | skipJob => "skip-job"
  | default => "default"

/-- The policies. -/
def Policy.all : List Policy := [reject, skipJob, default]

/-- The policy with a name. -/
def Policy.ofName? (name : String) : Option Policy := all.find? (·.name == name)

namespace Table

/-- Why a table is refused. -/
inductive Error where
  /-- A cell does not hold a value of its column. -/
  | invalidCell (column : Column) (cell : String) (fault : CellFault)
  /-- The header does not name the column of job names. -/
  | missingId
deriving DecidableEq, Repr

/-- The wording of a table error. -/
def Error.message : Error → String
  | invalidCell column cell fault =>
    "Invalid value `" ++ cell ++ "` in column " ++ column.header ++ ": " ++ fault.message
  | missingId => "Column " ++ Column.id.header ++ " is missing in squeue output"

/-- What a reader of tables notices. -/
inductive Notice where
  /-- The table lacks a column. -/
  | absentColumn (column : Column)
  /-- A row is left out because of a cell. -/
  | skippedRow (id : String) (error : Error)
  /-- An attribute keeps its default because of a cell. -/
  | defaultedCell (id : String) (error : Error)
  /-- A row is left out because it does not name its job. -/
  | namelessRow
deriving DecidableEq, Repr

/-- The gravity of a notice. -/
def Notice.level : Notice → Level
  | absentColumn _ => .debug
  | _ => .warn

/-- The wording of a notice. -/
def Notice.message : Notice → String
  | absentColumn column => "Column " ++ column.header ++ " not found in squeue output"
  | skippedRow id error => "Skipping job " ++ id ++ ": " ++ error.message
  | defaultedCell id error =>
    "Job " ++ id ++ ": " ++ error.message ++ ", using the default value"
  | namelessRow => "Skipping squeue row without a job id"

/-- The last position of a word in a list. -/
def lastIndex? (word : String) : List String → Option Nat
  | [] => none
  | w :: rest =>
    match lastIndex? word rest with
    | some i => some (i + 1)
    | none => if w = word then some 0 else none

/-- The cell at a position; a row that is too short has empty cells there. -/
def cellAt (row : List String) (i : Nat) : String := row[i]?.getD ""

/-- The columns that a header names, in the order in which they are requested, with their
positions. -/
def presentColumns (header : List String) : List (Column × Nat) :=
  Column.all.filterMap fun column => (lastIndex? column.header header).map (column, ·)

/-- The columns that a header does not name. -/
def absentColumns (header : List String) : List Column :=
  Column.all.filter fun column => (lastIndex? column.header header).isNone

/-- Sets the attributes of a row's job from its cells, column by column. -/
def fill (policy : Policy) (row : List String) :
    List (Column × Nat) → Job → Reported Notice (Except Error (Option Job))
  | [], job =>
    if job.id.isEmpty then ⟨.ok none, [.namelessRow]⟩ else ⟨.ok (some job), []⟩
  | (column, i) :: columns, job =>
    match column.set (cellAt row i) job with
    | .ok job => fill policy row columns job
    | .error fault =>
      let error := Error.invalidCell column (cellAt row i) fault
      match policy with
      | .reject => ⟨.error error, []⟩
      | .skipJob => ⟨.ok none, [.skippedRow job.id error]⟩
      | .default =>
        let rest := fill policy row columns job
        ⟨rest.value, .defaultedCell job.id error :: rest.notices⟩

/-- The job of a row, whose name stands at the position `i`. -/
def readRow (policy : Policy) (i : Nat) (columns : List (Column × Nat)) (row : List String) :
    Reported Notice (Except Error (Option Job)) :=
  fill policy row columns { id := cellAt row i }

/-- The jobs of the rows, in order; the first error ends the reading. -/
def readRows (policy : Policy) (i : Nat) (columns : List (Column × Nat)) :
    List (List String) → Reported Notice (Except Error (List Job))
  | [] => ⟨.ok [], []⟩
  | row :: rows =>
    (readRow policy i columns row).andThenOk fun job? =>
      (readRows policy i columns rows).map fun jobs => jobs.map (job?.toList ++ ·)

/-- The lines of a text that are not blank. -/
def filledLines (text : List Char) : List (List Char) :=
  (Text.lines text).filter fun line => !(Text.trim line).isEmpty

/-- The jobs of a table that is given by the cells of its header and rows. -/
def readGrid (policy : Policy) : List (List String) → Reported Notice (Except Error (List Job))
  | [] => ⟨.ok [], []⟩
  | header :: rows =>
    match lastIndex? Column.id.header header with
    | none => ⟨.error .missingId, []⟩
    | some i =>
      let jobs := readRows policy i (presentColumns header) rows
      ⟨jobs.value, (absentColumns header).map .absentColumn ++ jobs.notices⟩

/-- The jobs of a table, in the order of its rows. -/
def read (policy : Policy) (text : String) : Reported Notice (Except Error (List Job)) :=
  readGrid policy ((filledLines text.toList).map cells)

end Table

end NodeDemand
