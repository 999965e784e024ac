/-
# The attribute of a column

A job is a family of attributes, one for each column of the job table.  `Column.get` and
`Column.put` read and set an attribute, and a job is determined by its attributes
(`Column.ext_get`).  A setter of the table reads its cell first and then sets its own attribute
(`Column.set_eq`), so whether a cell is good depends on the column and the cell alone.
-/
import NodeDemand.Table.Column
import Mathlib.Tactic.Lemma

namespace NodeDemand

namespace Column

/-- The type of the attribute of a column. -/
@[reducible] def Value : Column → Type
  | id => String
  | state => JobState
  | nodes => UInt64
  | cpusTotal => UInt64
  | tasks => UInt64
  | cpusPerTask => UInt64
  | cpusMinPerNode => UInt64
  | pendingReason => String
  | tresPerJob => Tres
  | tresPerTask => Tres
  | tresPerNode => Tres

/-- The attribute of a job. -/
def get (column : Column) (job : Job) : column.Value :=
  match column with
  | id => job.id
  | state => job.state
  | nodes => job.nodes
  | cpusTotal => job.cpusTotal
  | tasks => job.tasks
  | cpusPerTask => job.cpusPerTask
  | cpusMinPerNode => job.cpusMinPerNode
  | pendingReason => job.pendingReason
  | tresPerJob => job.tresPerJob
  | tresPerTask => job.tresPerTask
  | tresPerNode => job.tresPerNode

/-- The job with an attribute set. -/
def put (column : Column) (value : column.Value) (job : Job) : Job :=
  match column with
  | id => { job with id := value }
  | state => { job with state := value }
  | nodes => { job with nodes := value }
  | cpusTotal => { job with cpusTotal := value }
  | tasks => { job with tasks := value }
  | cpusPerTask => { job with cpusPerTask := value }
  | cpusMinPerNode => { job with cpusMinPerNode := value }
  | pendingReason => { job with pendingReason := value }
  | tresPerJob => { job with tresPerJob := value }
  | tresPerTask => { job with tresPerTask := value }
  | tresPerNode => { job with tresPerNode := value }

/-- The attribute in a cell. -/
def readValue (column : Column) (cell : String) : Except CellFault column.Value :=
  match column with
  | id => if cell.isEmpty then .error .emptyId else .ok cell
  | state => .ok (.ofText cell)
  | nodes => readCell cell
  | cpusTotal => readCell cell
  | tasks => readCell cell
  | cpusPerTask => readCell cell
  | cpusMinPerNode => readCell cell
  | pendingReason => .ok cell
  | tresPerJob => readResources cell
  | tresPerTask => readResources cell
  | tresPerNode => readResources cell

/-- The attribute of a job about which nothing is known. -/
def initial (column : Column) : column.Value := column.get { id := "" }

lemma get_put (column : Column) (value : column.Value) (job : Job) :
    column.get (column.put value job) = value := by
  cases column <;> rfl

lemma get_put_of_ne {a b : Column} (h : a ≠ b) (value : a.Value) (job : Job) :
    b.get (a.put value job) = b.get job := by
  cases a <;> cases b <;> simp [get, put] at h ⊢

/-- A job is determined by its attributes. -/
lemma ext_get {a b : Job} (h : ∀ column : Column, column.get a = column.get b) : a = b := by
  obtain ⟨⟩ := a
  obtain ⟨⟩ := b
  simp only [Job.mk.injEq]
  exact ⟨h id, h state, h nodes, h cpusTotal, h tasks, h cpusPerTask, h cpusMinPerNode,
    h pendingReason, h tresPerJob, h tresPerTask, h tresPerNode⟩

/-- A setter reads the cell and then sets its attribute. -/
lemma set_eq (column : Column) (cell : String) (job : Job) :
    column.set cell job = (column.readValue cell).map fun value => column.put value job := by
  cases column with
  | id =>
    simp only [set, readValue]
    split <;> rfl
  | _ => rfl

lemma set_eq_error_iff {column : Column} {cell : String} {job : Job} {fault : CellFault} :
    column.set cell job = .error fault ↔ column.readValue cell = .error fault := by
  rw [set_eq]
  cases column.readValue cell <;> simp [Except.map]

end Column

end NodeDemand
