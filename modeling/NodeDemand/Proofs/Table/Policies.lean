/-
# What the policies do to a table

A row is *bad* in a column when the header names the column and the setter of the column refuses
the row's cell at the last position with that name.  `Table.read_by_policy` says how the three
policies treat the rows of any text: the first one refuses the table for the first bad cell, the
second one leaves out the bad rows, and the third one leaves out the rows without a name and gives
every bad cell its initial value.

The predicates on rows are stated with the setters and positions; the lemmas before the theorem
bring them together with the faults and jobs of `NodeDemand.Proofs.Table.Rows`.
-/
import NodeDemand.Proofs.Result
import NodeDemand.Proofs.Table.Rows
import Mathlib.Data.List.Forall2

namespace NodeDemand.Table

section Predicates

variable (header row : List String)

/-- The setter of a column refuses the cell of a row at a last position of the column. -/
def RefusedAt (column : Column) (i : ℕ) (fault : CellFault) : Prop :=
  IsLastAt column.header header i ∧ ∀ job, column.set (cellAt row i) job = .error fault

/-- The row is bad in a column. -/
def BadIn (column : Column) : Prop := ∃ i fault, RefusedAt header row column i fault

/-- The row is bad in some column. -/
def Bad : Prop := ∃ column, BadIn header row column

/-- The row has a cell with a name for its job. -/
def Named : Prop := ∃ i, IsLastAt Column.id.header header i ∧ cellAt row i ≠ ""

/-- The error reports the first column, in the order of requests, in which the row is bad. -/
def IsFirstFaultIn (error : Error) : Prop :=
  ∃ earlier column later, Column.all = earlier ++ column :: later ∧
    (∀ other ∈ earlier, ¬ BadIn header row other) ∧
      ∃ i fault, RefusedAt header row column i fault ∧
        error = .invalidCell column (cellAt row i) fault

/-- The error reports the first bad row in its first bad column. -/
def IsFirstFault (rows : List (List String)) (error : Error) : Prop :=
  ∃ before row after, rows = before ++ row :: after ∧ (∀ other ∈ before, ¬ Bad header other) ∧
    IsFirstFaultIn header row error

/-- The value is the one that the row's own cell holds in a column, or the initial value if the
cell is bad or the header does not name the column. -/
def HasValue (column : Column) (value : column.Value) : Prop :=
  (∃ i, IsLastAt column.header header i ∧ ∀ before, ∃ after,
      column.set (cellAt row i) before = .ok after ∧ column.get after = value) ∨
    ((column.header ∉ header ∨ BadIn header row column) ∧ value = column.initial)

/-- Every attribute of the job is the one of the row in its column. -/
def IsJobOf (job : Job) : Prop := ∀ column : Column, HasValue header row column (column.get job)

end Predicates

variable {header row : List String}

/-! ### Bad cells are faults -/

lemma faultIn?_eq_some_iff {column : Column} {error : Error} :
    faultIn? header row column = some error ↔
      ∃ i fault, RefusedAt header row column i fault ∧
        error = .invalidCell column (cellAt row i) fault := by
  constructor
  · intro h
    obtain ⟨i, hi, hread⟩ := Option.bind_eq_some_iff.1 h
    cases hvalue : column.readValue (cellAt row i) with
    | ok value =>
      rw [hvalue] at hread
      exact absurd hread (by simp)
    | error fault =>
      rw [hvalue, Option.some.injEq] at hread
      exact ⟨i, fault, ⟨lastIndex?_eq_some_iff.1 hi, fun _ => Column.set_eq_error_iff.2 hvalue⟩,
        hread.symm⟩
  · rintro ⟨i, fault, ⟨hi, hset⟩, rfl⟩
    have hread := Column.set_eq_error_iff.1 (hset { id := "" })
    rw [faultIn?, lastIndex?_eq_some_iff.2 hi, Option.bind_some, hread]

lemma faultIn?_eq_none_iff {column : Column} :
    faultIn? header row column = none ↔ ¬ BadIn header row column := by
  constructor
  · rintro h ⟨i, fault, hbad⟩
    have hsome := faultIn?_eq_some_iff.2 ⟨i, fault, hbad, rfl⟩
    rw [h] at hsome
    exact absurd hsome (by simp)
  · intro h
    cases hfault : faultIn? header row column with
    | none => rfl
    | some error =>
      obtain ⟨i, fault, hbad, -⟩ := faultIn?_eq_some_iff.1 hfault
      exact absurd ⟨i, fault, hbad⟩ h

lemma faults_eq_nil_iff : faults header row = [] ↔ ¬ Bad header row := by
  rw [faults, List.filterMap_eq_nil_iff]
  constructor
  · rintro h ⟨column, hbad⟩
    exact faultIn?_eq_none_iff.1 (h column (Column.mem_all column)) hbad
  · intro h column _
    exact faultIn?_eq_none_iff.2 fun hbad => h ⟨column, hbad⟩

lemma head?_faults_eq_some_iff {error : Error} :
    (faults header row).head? = some error ↔ IsFirstFaultIn header row error := by
  rw [faults, List.head?_filterMap, List.findSome?_eq_some_iff]
  simp only [faultIn?_eq_some_iff, faultIn?_eq_none_iff]
  constructor
  · rintro ⟨earlier, column, later, hall, hbad, hearlier⟩
    exact ⟨earlier, column, later, hall, hearlier, hbad⟩
  · rintro ⟨earlier, column, later, hall, hearlier, hbad⟩
    exact ⟨earlier, column, later, hall, hbad, hearlier⟩

instance (header row : List String) : Decidable (Bad header row) :=
  decidable_of_iff (¬ faults header row = []) (by rw [faults_eq_nil_iff, not_not])

instance (header row : List String) : Decidable (Named header row) :=
  decidable_of_iff (∃ i ∈ lastIndex? Column.id.header header, cellAt row i ≠ "") (by
    simp only [Option.mem_def, lastIndex?_eq_some_iff]
    rfl)

/-! ### The job of a row -/

lemma isJobOf_rowJob : IsJobOf header row (rowJob header row) := by
  intro column
  rw [get_rowJob, valueIn, valueIn?]
  cases hi : lastIndex? column.header header with
  | none => exact Or.inr ⟨Or.inl (lastIndex?_eq_none_iff.1 hi), rfl⟩
  | some i =>
    have hlast := lastIndex?_eq_some_iff.1 hi
    rw [Option.bind_some]
    cases hread : column.readValue (cellAt row i) with
    | ok value =>
      -- what the setter makes of the cell does not depend on the job that it is given
      refine Or.inl ⟨i, hlast, fun before => ⟨column.put value before, ?_, ?_⟩⟩
      · rw [Column.set_eq, hread]
        rfl
      · exact Column.get_put column value before
    | error fault =>
      have hbad : BadIn header row column :=
        ⟨i, fault, hlast, fun _ => Column.set_eq_error_iff.2 hread⟩
      exact Or.inr ⟨Or.inr hbad, rfl⟩

lemma forall₂_isJobOf_map (rows : List (List String)) :
    List.Forall₂ (IsJobOf header) rows (rows.map (rowJob header)) := by
  rw [List.forall₂_map_right_iff, List.forall₂_same]
  exact fun row _ => isJobOf_rowJob

/-! ### The rows under each policy -/

section Rows

variable {i : ℕ} (hi : lastIndex? Column.id.header header = some i)
include hi

lemma named_iff {row : List String} : Named header row ↔ (rowJob header row).id.isEmpty = false := by
  rw [id_rowJob hi, Bool.eq_false_iff, ne_eq, String.isEmpty_iff]
  constructor
  · rintro ⟨j, hj, hne⟩
    rw [← lastIndex?_eq_some_iff, hi, Option.some.injEq] at hj
    rwa [hj]
  · intro hne
    exact ⟨i, lastIndex?_eq_some_iff.1 hi, hne⟩

/-- The rows of a table are read one after the other, until one is refused. -/
lemma value_readRows_cons (policy : Policy) (row : List String) (rows : List (List String)) :
    (readRows policy i (presentColumns header) (row :: rows)).value =
      match (settle policy (faults header row) (rowJob header row)).value with
      | .error error => .error error
      | .ok job? =>
        (readRows policy i (presentColumns header) rows).value.map (job?.toList ++ ·) := by
  rw [readRows, readRow_eq hi, Reported.andThenOk]
  cases (settle policy (faults header row) (rowJob header row)).value <;> rfl

/-- Every job of a table is the job of one of its rows. -/
lemma exists_row_of_mem_readRows (policy : Policy) {rows : List (List String)} {jobs : List Job}
    (h : (readRows policy i (presentColumns header) rows).value = .ok jobs) {job : Job}
    (hjob : job ∈ jobs) : ∃ row ∈ rows, job = rowJob header row := by
  induction rows generalizing jobs with
  | nil =>
    obtain rfl := Except.ok.inj h
    exact absurd hjob List.not_mem_nil
  | cons row rest ih =>
    rw [value_readRows_cons hi] at h
    cases hrow : (settle policy (faults header row) (rowJob header row)).value with
    | error error =>
      rw [hrow] at h
      exact absurd h (by simp)
    | ok job? =>
      rw [hrow] at h
      obtain ⟨others, hrest, rfl⟩ := map_eq_ok_iff.1 h
      rcases List.mem_append.1 hjob with hjob | hjob
      · refine ⟨row, List.mem_cons_self, ?_⟩
        rcases job?_of_settle hrow with rfl | rfl
        · exact absurd hjob List.not_mem_nil
        · exact List.mem_singleton.1 hjob
      · obtain ⟨other, hother, rfl⟩ := ih hrest hjob
        exact ⟨other, List.mem_cons_of_mem row hother, rfl⟩

lemma value_readRows_reject (rows : List (List String)) :
    (readRows .reject i (presentColumns header) rows).value =
      match rows.findSome? fun row => (faults header row).head? with
      | some error => .error error
      | none => .ok (rows.map (rowJob header)) := by
  induction rows with
  | nil => rfl
  | cons row rest ih =>
    rw [value_readRows_cons hi, List.findSome?_cons]
    cases hfaults : faults header row with
    | cons error others => rfl
    | nil =>
      have hsettle := settle_of_faults_eq_nil hi .reject hfaults
      rw [hfaults] at hsettle
      rw [hsettle, ih, List.head?_nil]
      cases rest.findSome? fun row => (faults header row).head? <;> rfl

lemma value_readRows_skipJob (rows : List (List String)) :
    (readRows .skipJob i (presentColumns header) rows).value =
      .ok ((rows.filter fun row => ¬ Bad header row).map (rowJob header)) := by
  induction rows with
  | nil => rfl
  | cons row rest ih =>
    rw [value_readRows_cons hi, ih]
    by_cases hbad : Bad header row
    · obtain ⟨error, others, hfaults⟩ :=
        List.exists_cons_of_ne_nil fun hnil => faults_eq_nil_iff.1 hnil hbad
      rw [hfaults, List.filter_cons_of_neg (by simpa using hbad)]
      rfl
    · rw [settle_of_faults_eq_nil hi .skipJob (faults_eq_nil_iff.2 hbad),
        List.filter_cons_of_pos (by simpa using hbad)]
      rfl

lemma value_readRows_default (rows : List (List String)) :
    (readRows .default i (presentColumns header) rows).value =
      .ok ((rows.filter fun row => Named header row).map (rowJob header)) := by
  induction rows with
  | nil => rfl
  | cons row rest ih =>
    -- faults are noticed, but they do not decide whether the row has a job
    have hsettle : (settle .default (faults header row) (rowJob header row)).value =
        .ok (if (rowJob header row).id.isEmpty then none else some (rowJob header row)) := by
      cases faults header row <;> rfl
    rw [value_readRows_cons hi, ih, hsettle]
    by_cases hnamed : Named header row
    · rw [List.filter_cons_of_pos (by simpa using hnamed), (named_iff hi).1 hnamed]
      rfl
    · have hempty : (rowJob header row).id.isEmpty = true := by
        rw [named_iff hi, Bool.not_eq_false] at hnamed
        exact hnamed
      rw [List.filter_cons_of_neg (by simpa using hnamed), hempty]
      rfl

end Rows

lemma firstFault_iff {rows : List (List String)} {error : Error} :
    (rows.findSome? fun row => (faults header row).head?) = some error ↔
      IsFirstFault header rows error := by
  rw [List.findSome?_eq_some_iff]
  simp only [head?_faults_eq_some_iff, List.head?_eq_none_iff, faults_eq_nil_iff]
  constructor
  · rintro ⟨before, row, after, hrows, hfirst, hbefore⟩
    exact ⟨before, row, after, hrows, hbefore, hfirst⟩
  · rintro ⟨before, row, after, hrows, hbefore, hfirst⟩
    exact ⟨before, row, after, hrows, hfirst, hbefore⟩

lemma firstFault_eq_none_iff {rows : List (List String)} :
    (rows.findSome? fun row => (faults header row).head?) = none ↔
      ¬ ∃ row ∈ rows, Bad header row := by
  simp only [List.findSome?_eq_none_iff, List.head?_eq_none_iff, faults_eq_nil_iff, not_exists,
    not_and]

lemma exists_isFirstFault_iff {rows : List (List String)} :
    (∃ error, IsFirstFault header rows error) ↔ ∃ row ∈ rows, Bad header row := by
  rw [← not_iff_not, ← firstFault_eq_none_iff, Option.eq_none_iff_forall_ne_some, not_exists]
  exact forall_congr' fun error => not_congr firstFault_iff.symm

/-- Rows are refused for the first bad column of the first bad row. -/
lemma value_readRows_reject_eq_error_iff {i : ℕ} {rows : List (List String)} {error : Error}
    (hi : lastIndex? Column.id.header header = some i) :
    (readRows .reject i (presentColumns header) rows).value = .error error ↔
      IsFirstFault header rows error := by
  rw [← firstFault_iff, value_readRows_reject hi]
  cases rows.findSome? fun row => (faults header row).head? with
  | none => simp
  | some first => rw [Except.error.injEq, Option.some.injEq]

/-- The table that a text holds is read from the cells of its lines that are not blank. -/
lemma value_read_cons (policy : Policy) {text : String} {rows : List (List String)} {i : ℕ}
    (hgrid : (filledLines text.toList).map cells = header :: rows)
    (hi : lastIndex? Column.id.header header = some i) :
    (read policy text).value = (readRows policy i (presentColumns header) rows).value := by
  rw [read, hgrid, readGrid, hi]

/-- Every job that is read from a text is the job of one of its rows. -/
lemma exists_row_of_mem_read {policy : Policy} {text : String} {jobs : List Job}
    (h : (read policy text).value = .ok jobs) {job : Job} (hjob : job ∈ jobs) :
    ∃ header i row, lastIndex? Column.id.header header = some i ∧
      row ∈ (filledLines text.toList).map cells ∧ job = rowJob header row := by
  cases hgrid : (filledLines text.toList).map cells with
  | nil =>
    rw [read, hgrid] at h
    obtain rfl := Except.ok.inj h
    exact absurd hjob List.not_mem_nil
  | cons header rows =>
    cases hi : lastIndex? Column.id.header header with
    | none =>
      rw [read, hgrid, readGrid, hi] at h
      exact absurd h (by simp)
    | some i =>
      rw [value_read_cons policy hgrid hi] at h
      obtain ⟨row, hrow, hjobRow⟩ := exists_row_of_mem_readRows hi policy h hjob
      exact ⟨header, i, row, hi, List.mem_cons_of_mem header hrow, hjobRow⟩

/-- **The policies agree on the rows that are not bad.**  A text without lines yields no jobs, and
a header without the column of names is refused, under every policy.  Else the first policy
refuses the table exactly if some row is bad, for the first bad column of the first bad row, and
has one job for every row if none is bad; the second policy has one job for every row that is not
bad, and the third one for every row with a name.  The attributes of a job are those of its own
row, each by itself. -/
theorem read_by_policy (text : String) :
    match (filledLines text.toList).map cells with
    | [] => ∀ policy, (read policy text).value = .ok []
    | header :: rows =>
      if Column.id.header ∈ header then
        ((∃ error, (read .reject text).value = .error error) ↔ ∃ row ∈ rows, Bad header row) ∧
        (∀ error, (read .reject text).value = .error error ↔ IsFirstFault header rows error) ∧
        ((∃ row ∈ rows, Bad header row) ∨ ∃ jobs, (read .reject text).value = .ok jobs ∧
          List.Forall₂ (IsJobOf header) rows jobs) ∧
        (∃ jobs, (read .skipJob text).value = .ok jobs ∧
          List.Forall₂ (IsJobOf header) (rows.filter fun row => ¬ Bad header row) jobs) ∧
        (∃ jobs, (read .default text).value = .ok jobs ∧
          List.Forall₂ (IsJobOf header) (rows.filter fun row => Named header row) jobs)
      else ∀ policy, (read policy text).value = .error .missingId := by
  cases hgrid : (filledLines text.toList).map cells with
  | nil =>
    intro policy
    rw [read, hgrid]
    rfl
  | cons header rows =>
    dsimp only
    split
    · rename_i hmem
      obtain ⟨i, hi⟩ : ∃ i, lastIndex? Column.id.header header = some i := by
        rw [← Option.ne_none_iff_exists', ne_eq, lastIndex?_eq_none_iff, not_not]
        exact hmem
      have hreject : ∀ error, (read .reject text).value = .error error ↔
          IsFirstFault header rows error := by
        intro error
        rw [value_read_cons .reject hgrid hi, value_readRows_reject_eq_error_iff hi]
      refine ⟨?_, hreject, ?_, ?_, ?_⟩
      · simp only [hreject, exists_isFirstFault_iff]
      · by_cases hbad : ∃ row ∈ rows, Bad header row
        · exact Or.inl hbad
        · have hread := (value_read_cons .reject hgrid hi).trans (value_readRows_reject hi rows)
          rw [firstFault_eq_none_iff.2 hbad] at hread
          exact Or.inr ⟨_, hread, forall₂_isJobOf_map rows⟩
      · exact ⟨_, (value_read_cons .skipJob hgrid hi).trans (value_readRows_skipJob hi rows),
          forall₂_isJobOf_map _⟩
      · exact ⟨_, (value_read_cons .default hgrid hi).trans (value_readRows_default hi rows),
          forall₂_isJobOf_map _⟩
    · rename_i hmem
      intro policy
      rw [read, hgrid, readGrid, lastIndex?_eq_none_iff.2 hmem]

end NodeDemand.Table
