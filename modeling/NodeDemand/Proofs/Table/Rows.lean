/-
# What a row of the job table yields

The reader sets the attributes of a row's job column by column, and a policy decides at every bad
cell how to go on.  Here the same is said of the row as a whole: from the header and the row come
the faults of the row, in the order in which columns are requested (`faults`), and the job whose
attributes are those of the good cells (`rowJob`).  What a policy makes of a row follows from these
two and from nothing else (`readRow_eq`).
-/
import NodeDemand.Proofs.Table.Attributes
import NodeDemand.Table.Reader
import Mathlib.Data.Nat.Notation

namespace NodeDemand.Table

/-! ### The last position of a header -/

/-- A word stands at a position of a list and nowhere after it. -/
def IsLastAt (word : String) (words : List String) (i : ℕ) : Prop :=
  words[i]? = some word ∧ ∀ j, i < j → words[j]? ≠ some word

lemma lastIndex?_eq_none_iff {word : String} {words : List String} :
    lastIndex? word words = none ↔ word ∉ words := by
  induction words with
  | nil => simp [lastIndex?]
  | cons w rest ih =>
    rw [lastIndex?, List.mem_cons, not_or]
    cases hrest : lastIndex? word rest with
    | some k =>
      rw [hrest] at ih
      simpa using fun _ => ih
    | none =>
      rw [hrest] at ih
      have hmem : word ∉ rest := ih.1 rfl
      by_cases hw : w = word
      · simp [hw]
      · simpa [hw, hmem] using Ne.symm hw

lemma lastIndex?_eq_some_iff {word : String} {words : List String} {i : ℕ} :
    lastIndex? word words = some i ↔ IsLastAt word words i := by
  induction words generalizing i with
  | nil => simp [lastIndex?, IsLastAt]
  | cons w rest ih =>
    have hcons : ∀ k, IsLastAt word (w :: rest) (k + 1) ↔ IsLastAt word rest k := by
      intro k
      constructor
      · rintro ⟨hk, hafter⟩
        exact ⟨hk, fun j hj => hafter (j + 1) (by omega)⟩
      · rintro ⟨hk, hafter⟩
        refine ⟨hk, fun j hj => ?_⟩
        obtain ⟨j, rfl⟩ : ∃ j', j = j' + 1 := ⟨j - 1, by omega⟩
        exact hafter j (by omega)
    rw [lastIndex?]
    cases hrest : lastIndex? word rest with
    -- the word stands further on, so the first position is not the last one
    | some k =>
      have hk := ih.1 hrest
      cases i with
      | zero =>
        simp only [Option.some.injEq]
        constructor
        · intro h
          exact absurd h (Nat.succ_ne_zero k)
        · rintro ⟨-, hafter⟩
          exact absurd hk.1 (hafter (k + 1) (by omega))
      | succ i =>
        rw [hcons, ← ih, hrest]
        simp
    | none =>
      have hmem : word ∉ rest := lastIndex?_eq_none_iff.1 hrest
      cases i with
      | zero =>
        have hafter : ∀ j, 0 < j → (w :: rest)[j]? ≠ some word := by
          intro j hj h
          obtain ⟨j, rfl⟩ : ∃ j', j = j' + 1 := ⟨j - 1, by omega⟩
          exact hmem (List.mem_of_getElem? h)
        simp only [IsLastAt, List.getElem?_cons_zero, Option.some.injEq]
        constructor
        · intro h
          split at h
          · rename_i hw
            exact ⟨hw, hafter⟩
          · exact absurd h (by simp)
        · rintro ⟨rfl, -⟩
          exact if_pos rfl
      | succ i =>
        rw [hcons, ← ih, hrest]
        by_cases hw : w = word <;> simp [hw]

/-! ### Faults and values of a row -/

section Row

variable (header row : List String)

/-- The attribute that a row has in a column, unless the header lacks the column or the cell is
bad. -/
def valueIn? (column : Column) : Option column.Value :=
  (lastIndex? column.header header).bind fun i => (column.readValue (cellAt row i)).toOption

/-- What is wrong with the cell of a row in a column, if anything is. -/
def faultIn? (column : Column) : Option Error :=
  (lastIndex? column.header header).bind fun i =>
    match column.readValue (cellAt row i) with
    | .ok _ => none
    | .error fault => some (.invalidCell column (cellAt row i) fault)

/-- What is wrong with the cells of a row, in the order in which columns are requested. -/
def faults : List Error := Column.all.filterMap (faultIn? header row)

/-- The attribute of a row's job: the one in its cell, or else the initial one. -/
def valueIn (column : Column) : column.Value := (valueIn? header row column).getD column.initial

/-- The job of a row. -/
def rowJob : Job where
  id := valueIn header row .id
  state := valueIn header row .state
  nodes := valueIn header row .nodes
  cpusTotal := valueIn header row .cpusTotal
  tasks := valueIn header row .tasks
  cpusPerTask := valueIn header row .cpusPerTask
  cpusMinPerNode := valueIn header row .cpusMinPerNode
  pendingReason := valueIn header row .pendingReason
  tresPerJob := valueIn header row .tresPerJob
  tresPerTask := valueIn header row .tresPerTask
  tresPerNode := valueIn header row .tresPerNode

lemma get_rowJob (column : Column) :
    column.get (rowJob header row) = valueIn header row column := by
  cases column <;> rfl

/-- The job with the attribute of one column set from a row, if the row has it. -/
def assign (job : Job) (column : Column) : Job :=
  match valueIn? header row column with
  | none => job
  | some value => column.put value job

variable {header row}

/-- Columns that a row has one after the other set an attribute each. -/
lemma get_foldl_assign {columns : List Column} (hnodup : columns.Nodup) (job : Job)
    (column : Column) :
    column.get (columns.foldl (assign header row) job) =
      if column ∈ columns then (valueIn? header row column).getD (column.get job)
      else column.get job := by
  induction columns generalizing job with
  | nil => simp
  | cons c rest ih =>
    obtain ⟨hc, hrest⟩ := List.nodup_cons.1 hnodup
    rw [List.foldl_cons, ih hrest]
    by_cases heq : column = c
    · subst heq
      rw [if_neg hc, if_pos List.mem_cons_self, assign]
      cases valueIn? header row column with
      | none => rfl
      | some value => exact Column.get_put column value job
    · have hget : column.get (assign header row job c) = column.get job := by
        rw [assign]
        cases valueIn? header row c with
        | none => rfl
        | some value => exact Column.get_put_of_ne (Ne.symm heq) value job
      simp only [hget, List.mem_cons, heq, false_or]

/-- A row that starts with its name ends as the job of the row. -/
lemma foldl_assign_eq_rowJob {i : ℕ} (hi : lastIndex? Column.id.header header = some i) :
    Column.all.foldl (assign header row) { id := cellAt row i } = rowJob header row := by
  apply Column.ext_get
  intro column
  rw [get_foldl_assign (by decide), if_pos (Column.mem_all column), get_rowJob, valueIn]
  cases hvalue : valueIn? header row column with
  | some value => rfl
  | none =>
    cases column with
    | id =>
      -- the cell with the name is refused only when it is empty
      rw [valueIn?, hi, Option.bind_some, Column.readValue] at hvalue
      split at hvalue
      · rename_i hempty
        exact String.isEmpty_iff.1 hempty
      · exact absurd hvalue (by simp [Except.toOption])
    | _ => rfl

end Row

/-! ### Reading a row -/

/-- What a policy makes of the faults of a row and of its job. -/
def settle (policy : Policy) (faults : List Error) (job : Job) :
    Reported Notice (Except Error (Option Job)) :=
  match policy, faults with
  | .reject, error :: _ => ⟨.error error, []⟩
  | .skipJob, error :: _ => ⟨.ok none, [.skippedRow job.id error]⟩
  | _, faults =>
    ⟨.ok (if job.id.isEmpty then none else some job),
      faults.map (.defaultedCell job.id) ++ if job.id.isEmpty then [.namelessRow] else []⟩

/-- A row yields its job or none. -/
lemma job?_of_settle {policy : Policy} {faults : List Error} {job : Job} {job? : Option Job}
    (h : (settle policy faults job).value = .ok job?) : job? = none ∨ job? = some job := by
  unfold settle at h
  split at h
  · exact absurd h (by simp)
  · exact Or.inl (Except.ok.inj h).symm
  · have hjob := Except.ok.inj h
    split at hjob
    · exact Or.inl hjob.symm
    · exact Or.inr hjob.symm

section Fill

variable {header row : List String} {job : Job}

/-- The name of the job is the one in the row's cell for it, which is never set to another. -/
lemma id_assign
    (hid : ∀ i, lastIndex? Column.id.header header = some i → cellAt row i = job.id)
    (column : Column) : (assign header row job column).id = job.id := by
  rw [assign]
  cases hvalue : valueIn? header row column with
  | none => rfl
  | some value =>
    cases column with
    | id =>
      obtain ⟨i, hi, hread⟩ := Option.bind_eq_some_iff.1 hvalue
      rw [Column.readValue] at hread
      split at hread
      · exact absurd hread (by simp [Except.toOption])
      · have hcell : cellAt row i = value := by simpa [Except.toOption] using hread
        rw [← hid i hi, hcell]
        rfl
    | _ => rfl

lemma id_foldl_assign
    (hid : ∀ i, lastIndex? Column.id.header header = some i → cellAt row i = job.id)
    (columns : List Column) : (columns.foldl (assign header row) job).id = job.id := by
  induction columns generalizing job with
  | nil => rfl
  | cons column rest ih =>
    have hstep := id_assign hid column
    rw [List.foldl_cons, ih (by rwa [hstep]), hstep]

/-- Going over columns settles a row by its faults in these columns. -/
lemma fill_eq (policy : Policy)
    (hid : ∀ i, lastIndex? Column.id.header header = some i → cellAt row i = job.id)
    (columns : List Column) :
    fill policy row
        (columns.filterMap fun column => (lastIndex? column.header header).map (column, ·)) job =
      settle policy (columns.filterMap (faultIn? header row))
        (columns.foldl (assign header row) job) := by
  -- the job changes from column to column, but never its name, by which it is noticed
  induction columns generalizing job with
  | nil =>
    simp only [List.filterMap_nil, List.foldl_nil, fill]
    cases policy <;> cases hempty : job.id.isEmpty <;> simp [settle, hempty]
  | cons column rest ih =>
    have hstep := id_assign hid column
    have hnext := @ih (assign header row job column) (by rwa [hstep])
    rw [List.foldl_cons]
    cases hlast : lastIndex? column.header header with
    | none =>
      have hfault : faultIn? header row column = none := by rw [faultIn?, hlast]; rfl
      have hassign : assign header row job column = job := by rw [assign, valueIn?, hlast]; rfl
      rw [hassign] at hnext ⊢
      rwa [List.filterMap_cons_none (by rw [hlast]; rfl), List.filterMap_cons_none hfault]
    | some i =>
      rw [List.filterMap_cons_some (b := (column, i)) (by rw [hlast]; rfl), fill, Column.set_eq]
      cases hread : column.readValue (cellAt row i) with
      | ok value =>
        have hfault : faultIn? header row column = none := by
          rw [faultIn?, hlast, Option.bind_some, hread]
        have hassign : assign header row job column = column.put value job := by
          rw [assign, valueIn?, hlast, Option.bind_some, hread]
          rfl
        rw [hassign] at hnext ⊢
        rwa [List.filterMap_cons_none hfault]
      | error fault =>
        have hfault : faultIn? header row column =
            some (.invalidCell column (cellAt row i) fault) := by
          rw [faultIn?, hlast, Option.bind_some, hread]
        have hassign : assign header row job column = job := by
          rw [assign, valueIn?, hlast, Option.bind_some, hread]
          rfl
        rw [hassign] at hnext ⊢
        rw [List.filterMap_cons_some hfault]
        have hname := id_foldl_assign hid rest
        cases policy with
        | reject => rfl
        | skipJob => simp only [Except.map, settle, hname]
        | default =>
          simp only [Except.map, hnext, settle, hname, List.map_cons, List.cons_append]

end Fill

section Named

variable {header : List String} {i : ℕ} (hi : lastIndex? Column.id.header header = some i)
include hi

lemma cellAt_eq_of_lastIndex? (row : List String) (j : ℕ)
    (hj : lastIndex? Column.id.header header = some j) : cellAt row j = cellAt row i := by
  rw [hi, Option.some.injEq] at hj
  rw [hj]

/-- A row is read as its faults and its job say. -/
theorem readRow_eq (policy : Policy) (row : List String) :
    readRow policy i (presentColumns header) row =
      settle policy (faults header row) (rowJob header row) := by
  rw [readRow, presentColumns, fill_eq policy (cellAt_eq_of_lastIndex? hi row),
    foldl_assign_eq_rowJob hi, faults]

/-- The job of a row has the name in the row's cell for it. -/
lemma id_rowJob (row : List String) : (rowJob header row).id = cellAt row i := by
  rw [← foldl_assign_eq_rowJob hi, id_foldl_assign (cellAt_eq_of_lastIndex? hi row)]

/-- A row without faults names its job. -/
lemma cellAt_ne_of_faults_eq_nil {row : List String} (h : faults header row = []) :
    cellAt row i ≠ "" := by
  intro hempty
  have hfault : faultIn? header row .id = none :=
    (List.filterMap_eq_nil_iff.1 h) .id (Column.mem_all _)
  rw [faultIn?, hi, Option.bind_some, hempty] at hfault
  exact absurd hfault (by simp [Column.readValue])

lemma settle_of_faults_eq_nil (policy : Policy) {row : List String}
    (h : faults header row = []) :
    settle policy (faults header row) (rowJob header row) =
      ⟨.ok (some (rowJob header row)), []⟩ := by
  have hname : (rowJob header row).id.isEmpty = false := by
    rw [id_rowJob hi, Bool.eq_false_iff, ne_eq, String.isEmpty_iff]
    exact cellAt_ne_of_faults_eq_nil hi h
  rw [h]
  cases policy <;> simp [settle, hname]

/-- Rows without faults all yield their jobs, and there is nothing to say about them. -/
lemma readRows_of_faults_eq_nil (policy : Policy) {rows : List (List String)}
    (h : ∀ row ∈ rows, faults header row = []) :
    readRows policy i (presentColumns header) rows =
      ⟨.ok (rows.map (rowJob header)), []⟩ := by
  induction rows with
  | nil => rfl
  | cons row rest ih =>
    have hrow := settle_of_faults_eq_nil hi policy (h row List.mem_cons_self)
    have hrest := ih fun r hr => h r (List.mem_cons_of_mem row hr)
    rw [readRows, readRow_eq hi policy, hrow, hrest]
    rfl

end Named

end NodeDemand.Table
