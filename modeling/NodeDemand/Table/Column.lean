/-
# Columns of the job table

The table has a column for every attribute of a job.  A column is requested by its field name and
recognised by its header.  Its cells say how the attribute of the row's job is set.
-/
import NodeDemand.Job.Basic
import NodeDemand.Tres.Reader

namespace NodeDemand

/-- A column of the job table. -/
inductive Column where
  | id
  | state
  | nodes
  | cpusTotal
  | tasks
  | cpusPerTask
  | cpusMinPerNode
  | pendingReason
  | tresPerJob
  | tresPerTask
  | tresPerNode
deriving DecidableEq, Repr

/-- Why a cell does not hold a value of its column. -/
inductive CellFault where
  /-- A job needs a name. -/
  | emptyId
  /-- The cell does not hold a count. -/
  | count (error : Decimal.CountError)
  /-- The cell does not hold a list of resources. -/
  | tres (error : SyntaxError)
deriving DecidableEq, Repr

/-- The wording of a cell fault. -/
def CellFault.message : CellFault → String
  | emptyId => "job id cannot be empty"
  | count error => error.message
  | tres error => error.message

namespace Column

/-- The columns in the order in which they are requested. -/
def all : List Column :=
  [id, state, nodes, cpusTotal, tasks, cpusPerTask, cpusMinPerNode, pendingReason, tresPerJob,
    tresPerTask, tresPerNode]

/-- The name under which a column is requested. -/
def field : Column → String
  | id => "jobid"
  | state => "statecompact"
  | nodes => "numnodes"
  | cpusTotal => "numcpus"
  | tasks => "numtasks"
  | cpusPerTask => "cpus-per-task"
  | cpusMinPerNode => "mincpus"
  | pendingReason => "reason"
  | tresPerJob => "tres-per-job"
  | tresPerTask => "tres-per-task"
  | tresPerNode => "tres-per-node"

/-- The header of a column. -/
def header : Column → String
  | id => "JOBID"
  | state => "ST"
  | nodes => "NODES"
  | cpusTotal => "CPUS"
  | tasks => "TASKS"
  | cpusPerTask => "CPUS_PER_TASK"
  | cpusMinPerNode => "MIN_CPUS"
  | pendingReason => "REASON"
  | tresPerJob => "TRES_PER_JOB"
  | tresPerTask => "TRES_PER_TASK"
  | tresPerNode => "TRES_PER_NODE"

/-- The count in a cell. -/
def readCell (cell : String) : Except CellFault UInt64 :=
  (Decimal.countOfField cell.toList).mapError .count

/-- The resources in a cell. -/
def readResources (cell : String) : Except CellFault Tres :=
  (Tres.ofText cell).mapError .tres

/-- The job with the attribute of a column set from a cell. -/
def set (column : Column) (cell : String) (job : Job) : Except CellFault Job :=
  match column with
  | id => if cell.isEmpty then .error .emptyId else .ok { job with id := cell }
  | state => .ok { job with state := .ofText cell }
  | nodes => (readCell cell).map fun n => { job with nodes := n }
  | cpusTotal => (readCell cell).map fun n => { job with cpusTotal := n }
  | tasks => (readCell cell).map fun n => { job with tasks := n }
  | cpusPerTask => (readCell cell).map fun n => { job with cpusPerTask := n }
  | cpusMinPerNode => (readCell cell).map fun n => { job with cpusMinPerNode := n }
  | pendingReason => .ok { job with pendingReason := cell }
  | tresPerJob => (readResources cell).map fun t => { job with tresPerJob := t }
  | tresPerTask => (readResources cell).map fun t => { job with tresPerTask := t }
  | tresPerNode => (readResources cell).map fun t => { job with tresPerNode := t }

theorem mem_all (column : Column) : column ∈ all := by
  cases column <;> decide

end Column

end NodeDemand
