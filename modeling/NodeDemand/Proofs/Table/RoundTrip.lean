/-
# Written tables read back

A list of jobs whose attributes can stand in the cells of a table is written as a table from which
the same list is read, under every policy and without notices (`Table.read_write_jobs`).  The proof
goes cell by cell: what is written for an attribute is read as that attribute
(`Column.readValue_cell`), and stands where the reader looks for it (`valueIn?_jobRow`).
-/
import NodeDemand.Proofs.Job.State
import NodeDemand.Proofs.Table.Cells
import NodeDemand.Proofs.Table.Rows
import NodeDemand.Proofs.Tres.RoundTrip
import NodeDemand.Count
import Mathlib.Algebra.Group.Nat.Defs

namespace NodeDemand

/-- The columns whose cells hold a text that may be too wide for a column. -/
def Column.texts : List Column :=
  [id, state, pendingReason, tresPerJob, tresPerTask, tresPerNode]

/-- The resources of a job. -/
def Job.resources (job : Job) : List Tres := [job.tresPerJob, job.tresPerTask, job.tresPerNode]

/-- A job that a table can hold. -/
structure Job.Tabular (job : Job) : Prop where
  /-- The job has a name. -/
  named : job.id ≠ ""
  /-- The texts of the job fit into their columns. -/
  texts_fit : ∀ column ∈ Column.texts, Table.FitsCell (column.cell job)
  /-- The state of the job is one that a text can denote. -/
  state_denoted : ∃ text, JobState.ofText text = job.state
  /-- The resources have names that a list can hold. -/
  resources_named : ∀ t ∈ job.resources, ∀ e ∈ t.entries, Tres.IsName e.1

/-! ### The cells of counts -/

namespace Decimal

lemma utf8Size_of_isDigit {c : Char} (h : c.isDigit = true) : c.utf8Size = 1 := by
  rw [Char.isDigit, Bool.and_eq_true, decide_eq_true_eq, decide_eq_true_eq] at h
  have hascii : c.val ≤ 0x7F := UInt32.le_trans h.2 (by decide)
  exact if_pos hascii

lemma length_write_le {n k : ℕ} (h : n < 10 ^ (k + 1)) : (write n).length ≤ k + 1 := by
  induction n using write.induct generalizing k with
  | case1 n hn =>
    rw [write, if_pos hn, List.length_singleton]
    omega
  | case2 n hn ih =>
    cases k with
    | zero => omega
    | succ k =>
      have hdiv : n / 10 < 10 ^ (k + 1) := by
        rw [Nat.pow_succ] at h
        omega
      rw [write, if_neg hn, List.length_append, List.length_singleton]
      exact Nat.succ_le_succ (ih hdiv)

end Decimal

namespace Table

lemma byteSize_eq_length {s : List Char} (h : ∀ c ∈ s, c.isDigit = true) :
    byteSize s = s.length := by
  induction s with
  | nil => rfl
  | cons c s ih =>
    rw [byteSize_cons, Decimal.utf8Size_of_isDigit (h c List.mem_cons_self),
      ih fun d hd => h d (List.mem_cons_of_mem c hd), List.length_cons, Nat.add_comm]

/-- The numeral of a count fits into a column, as it has at most twenty digits. -/
lemma fitsCell_count (n : UInt64) : FitsCell (Decimal.text n.toNat) := by
  have hdigits : ∀ c ∈ Decimal.write n.toNat, c.isDigit = true :=
    fun c hc => Decimal.isDigit_of_mem_write hc
  have hblank : ∀ c ∈ Decimal.write n.toNat, Text.isBlank c = false :=
    fun c hc => Text.isBlank_of_isDigit (hdigits c hc)
  have hlength : (Decimal.write n.toNat).length ≤ 19 + 1 :=
    Decimal.length_write_le (n.toNat_lt.trans (by decide))
  refine ⟨?_, ?_, ?_⟩
  · rw [Decimal.text, String.toList_ofList, byteSize_eq_length hdigits, cellWidth]
    omega
  · rw [Decimal.text, String.toList_ofList]
    exact Text.trim_eq_self (fun c hc => hblank c (List.mem_of_head? hc))
      fun c hc => hblank c (List.mem_of_getLast? hc)
  · rw [Decimal.text, String.toList_ofList]
    exact fun hmem => absurd (hdigits '\n' hmem) (by decide)

end Table

lemma Job.Tabular.fitsCell {job : Job} (h : job.Tabular) (column : Column) :
    Table.FitsCell (column.cell job) := by
  cases column with
  | nodes => exact Table.fitsCell_count job.nodes
  | cpusTotal => exact Table.fitsCell_count job.cpusTotal
  | tasks => exact Table.fitsCell_count job.tasks
  | cpusPerTask => exact Table.fitsCell_count job.cpusPerTask
  | cpusMinPerNode => exact Table.fitsCell_count job.cpusMinPerNode
  | _ => exact h.texts_fit _ (by decide)

/-! ### Cells read back -/

namespace Column

lemma readCell_text (n : UInt64) : readCell (Decimal.text n.toNat) = .ok n := by
  rw [readCell, Decimal.text, String.toList_ofList, Decimal.countOfField_write]
  rfl

lemma readResources_text {t : Tres} (h : ∀ e ∈ t.entries, Tres.IsName e.1) :
    readResources t.text = .ok t := by
  rw [readResources, Tres.ofText, Tres.text, String.toList_ofList, Tres.read_write h]
  rfl

/-- What is written for an attribute of a job is read as that attribute. -/
lemma readValue_cell {job : Job} (h : job.Tabular) (column : Column) :
    column.readValue (column.cell job) = .ok (column.get job) := by
  have hresources : ∀ t ∈ job.resources, readResources t.text = .ok t :=
    fun t ht => readResources_text (h.resources_named t ht)
  cases column with
  | id => exact if_neg (mt String.isEmpty_iff.1 h.named)
  | state => exact congrArg Except.ok (JobState.ofText_code h.state_denoted)
  | nodes => exact readCell_text job.nodes
  | cpusTotal => exact readCell_text job.cpusTotal
  | tasks => exact readCell_text job.tasks
  | cpusPerTask => exact readCell_text job.cpusPerTask
  | cpusMinPerNode => exact readCell_text job.cpusMinPerNode
  | pendingReason => rfl
  | tresPerJob => exact hresources _ (by simp [Job.resources])
  | tresPerTask => exact hresources _ (by simp [Job.resources])
  | tresPerNode => exact hresources _ (by simp [Job.resources])

end Column

namespace Table

/-- Every column stands in the header at its own position among all columns. -/
lemma lastIndex?_headerRow (column : Column) :
    lastIndex? column.header headerRow = some (Column.all.idxOf column) := by
  cases column <;> decide

lemma cellAt_jobRow (job : Job) (column : Column) :
    cellAt (jobRow job) (Column.all.idxOf column) = column.cell job := by
  have hcolumn : Column.all[Column.all.idxOf column]? = some column := by
    cases column <;> decide
  rw [cellAt, jobRow, List.getElem?_map, hcolumn]
  rfl

lemma valueIn?_jobRow {job : Job} (h : job.Tabular) (column : Column) :
    valueIn? headerRow (jobRow job) column = some (column.get job) := by
  rw [valueIn?, lastIndex?_headerRow, Option.bind_some, cellAt_jobRow, Column.readValue_cell h]
  rfl

lemma rowJob_jobRow {job : Job} (h : job.Tabular) : rowJob headerRow (jobRow job) = job := by
  apply Column.ext_get
  intro column
  rw [get_rowJob, valueIn, valueIn?_jobRow h, Option.getD_some]

lemma faults_jobRow {job : Job} (h : job.Tabular) : faults headerRow (jobRow job) = [] := by
  refine List.filterMap_eq_nil_iff.2 fun column _ => ?_
  rw [faultIn?, lastIndex?_headerRow, Option.bind_some, cellAt_jobRow, Column.readValue_cell h]

lemma fitsRow_headerRow : FitsRow headerRow :=
  ⟨by decide +kernel, "JOBID", by decide, by decide⟩

lemma fitsRow_jobRow {job : Job} (h : job.Tabular) : FitsRow (jobRow job) := by
  refine ⟨?_, job.id, List.mem_map.2 ⟨.id, by decide, rfl⟩, h.named⟩
  intro cell hcell
  obtain ⟨column, -, rfl⟩ := List.mem_map.1 hcell
  exact h.fitsCell column

/-- **Reading undoes writing.**  From the table that is written for jobs that a table can hold, the
same jobs are read in the same order, under every policy, and there is nothing to notice. -/
theorem read_write_jobs (policy : Policy) {jobs : List Job} (h : ∀ job ∈ jobs, job.Tabular) :
    read policy (write jobs) = ⟨.ok jobs, []⟩ := by
  have hrows : ∀ row ∈ headerRow :: jobs.map jobRow, FitsRow row := by
    intro row hrow
    rcases List.mem_cons.1 hrow with rfl | hrow
    · exact fitsRow_headerRow
    · obtain ⟨job, hjob, rfl⟩ := List.mem_map.1 hrow
      exact fitsRow_jobRow (h job hjob)
  have hfaults : ∀ row ∈ jobs.map jobRow, faults headerRow row = [] := by
    intro row hrow
    obtain ⟨job, hjob, rfl⟩ := List.mem_map.1 hrow
    exact faults_jobRow (h job hjob)
  have hjobs : (jobs.map jobRow).map (rowJob headerRow) = jobs := by
    rw [List.map_map]
    exact (List.map_congr_left fun job hjob => rowJob_jobRow (h job hjob)).trans (List.map_id jobs)
  have hid := lastIndex?_headerRow .id
  have habsent : absentColumns headerRow = [] := by decide
  rw [read, write, grid_writeGrid hrows, readGrid, hid, habsent]
  simp only [readRows_of_faults_eq_nil hid policy hfaults, hjobs]
  rfl

/-- A job with a reason that fills its column with characters of two bytes, a state that is not
known, the greatest count and two resources. -/
def wideJob : Job where
  id := "12_4"
  state := .unknown "BF"
  nodes := Count.greatest
  pendingReason := String.ofList (List.replicate 100 'é')
  tresPerJob := Tres.ofList [("license/matlab", 0), ("gpu", 4)]

theorem read_write_wideJob :
    (∀ job ∈ [wideJob, { id := "5" }], job.Tabular) ∧
      read .default (write [wideJob, { id := "5" }]) = ⟨.ok [wideJob, { id := "5" }], []⟩ := by
  have h : ∀ job ∈ [wideJob, { id := "5" }], job.Tabular := by
    intro job hjob
    rcases List.mem_pair.1 hjob with rfl | rfl
    · exact ⟨by decide, by decide +kernel, ⟨"BF", by decide +kernel⟩, by decide +kernel⟩
    · exact ⟨by decide, by decide +kernel, ⟨"pd", by decide +kernel⟩, by decide⟩
  exact ⟨h, read_write_jobs .default h⟩

end Table

end NodeDemand
