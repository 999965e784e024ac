/-
# What is noticed about the rows of a table

Whatever a policy does to a row, it warns of it.  Leaving out bad rows is noticed once for each of
them, with its first fault (`warnings_skipJob`); initial values are noticed once for each bad cell,
and a row without a name is noticed besides (`warnings_default`).  A policy that refuses the table
warns of nothing (`warnings_reject`).
-/
import NodeDemand.Proofs.Table.Policies

namespace NodeDemand

/-- What is picked out of a list is noticed one by one, if all else is passed over in silence. -/
lemma forall₂_filterMap {α β : Type} {p : α → Prop} [DecidablePred p] {f : α → Option β}
    {R : α → β → Prop} (hsilent : ∀ a, ¬ p a → f a = none)
    (hnoticed : ∀ a, p a → ∃ b, f a = some b ∧ R a b) (xs : List α) :
    List.Forall₂ R (xs.filter fun a => p a) (xs.filterMap f) := by
  induction xs with
  | nil => exact .nil
  | cons a xs ih =>
    by_cases ha : p a
    · obtain ⟨b, hb, hab⟩ := hnoticed a ha
      rw [List.filter_cons_of_pos (by simpa using ha), List.filterMap_cons_some hb]
      exact .cons hab ih
    · rw [List.filter_cons_of_neg (by simpa using ha), List.filterMap_cons_none (hsilent a ha)]
      exact ih

namespace Table

/-- The warnings among the notices about a table. -/
def warnings {α : Type} (report : Reported Notice α) : List Notice :=
  report.notices.filter fun notice => notice.level = .warn

section Predicates

variable (header row : List String)

/-- The notice says that the row is left out, and names its first bad column. -/
def NoticesSkip (notice : Notice) : Prop :=
  ∃ i error, IsLastAt Column.id.header header i ∧ IsFirstFaultIn header row error ∧
    notice = .skippedRow (cellAt row i) error

/-- The notice says that an attribute of the row's job keeps its default because of the row's cell
in the column. -/
def NoticesCell (column : Column) (notice : Notice) : Prop :=
  ∃ i j fault, IsLastAt Column.id.header header i ∧ RefusedAt header row column j fault ∧
    notice = .defaultedCell (cellAt row i) (.invalidCell column (cellAt row j) fault)

instance (column : Column) : Decidable (BadIn header row column) :=
  decidable_of_iff (¬ faultIn? header row column = none) (by rw [faultIn?_eq_none_iff, not_not])

/-- The notices say of every bad cell of the row, in the order in which columns are requested, that
a default is kept, and then that the row is left out if it does not name its job. -/
def NoticesRow (notices : List Notice) : Prop :=
  ∃ cells, notices = cells ++ (if Named header row then [] else [.namelessRow]) ∧
    List.Forall₂ (NoticesCell header row) (Column.all.filter fun column => BadIn header row column)
      cells

/-- What is noticed about a row whose bad cells are given defaults. -/
def defaultNotices (i : ℕ) : List Notice :=
  (faults header row).map (.defaultedCell (cellAt row i)) ++
    if Named header row then [] else [.namelessRow]

end Predicates

/-! ### The notices of the rows -/

section Rows

variable {header : List String} {i : ℕ} (hi : lastIndex? Column.id.header header = some i)
include hi

/-- What is noticed about rows that are read to the end is what is noticed about each of them. -/
lemma notices_readRows_of_ok (policy : Policy) {rows : List (List String)} {jobs : List Job}
    (h : (readRows policy i (presentColumns header) rows).value = .ok jobs) :
    (readRows policy i (presentColumns header) rows).notices =
      rows.flatMap fun row => (settle policy (faults header row) (rowJob header row)).notices := by
  -- a row that is refused would have refused the table, so every row is settled
  induction rows generalizing jobs with
  | nil => rfl
  | cons row rows ih =>
    rw [value_readRows_cons hi] at h
    rw [readRows, readRow_eq hi, Reported.andThenOk, List.flatMap_cons]
    cases hrow : (settle policy (faults header row) (rowJob header row)).value with
    | error error =>
      rw [hrow] at h
      exact absurd h (by simp)
    | ok job? =>
      rw [hrow] at h
      obtain ⟨others, hrest, -⟩ := map_eq_ok_iff.1 h
      rw [← ih hrest]
      rfl

lemma notices_readRows_reject (rows : List (List String)) :
    (readRows .reject i (presentColumns header) rows).notices = [] := by
  induction rows with
  | nil => rfl
  | cons row rows ih =>
    rw [readRows, readRow_eq hi, Reported.andThenOk]
    cases hfaults : faults header row with
    -- the first bad row ends the table in silence: its fault is the error
    | cons error others => rfl
    | nil =>
      have hsettle := settle_of_faults_eq_nil hi .reject hfaults
      rw [hfaults] at hsettle
      rw [hsettle]
      exact ih

lemma notices_readRows_skipJob (rows : List (List String)) :
    (readRows .skipJob i (presentColumns header) rows).notices =
      rows.filterMap fun row => (faults header row).head?.map (.skippedRow (cellAt row i)) := by
  rw [notices_readRows_of_ok hi .skipJob (value_readRows_skipJob hi rows),
    List.filterMap_eq_flatMap_toList]
  congr 1
  funext row
  cases hfaults : faults header row with
  | cons error others =>
    rw [← id_rowJob hi row]
    rfl
  | nil =>
    have hsettle := settle_of_faults_eq_nil hi .skipJob hfaults
    rw [hfaults] at hsettle
    rw [hsettle]
    rfl

lemma notices_readRows_default (rows : List (List String)) :
    (readRows .default i (presentColumns header) rows).notices =
      rows.flatMap fun row => defaultNotices header row i := by
  rw [notices_readRows_of_ok hi .default (value_readRows_default hi rows)]
  congr 1
  funext row
  have hsettle : (settle .default (faults header row) (rowJob header row)).notices =
      (faults header row).map (.defaultedCell (rowJob header row).id) ++
        if (rowJob header row).id.isEmpty then [.namelessRow] else [] := by
    cases faults header row <;> rfl
  rw [hsettle, id_rowJob hi, defaultNotices]
  congr 1
  by_cases hnamed : Named header row
  · have hid := (named_iff hi).1 hnamed
    rw [id_rowJob hi] at hid
    rw [if_pos hnamed, hid]
    rfl
  · have hid : (rowJob header row).id.isEmpty = true := by
      rw [named_iff hi, Bool.not_eq_false] at hnamed
      exact hnamed
    rw [id_rowJob hi] at hid
    rw [if_neg hnamed, hid]
    rfl

/-! ### The notices of one row -/

lemma forall₂_noticesSkip (rows : List (List String)) :
    List.Forall₂ (NoticesSkip header) (rows.filter fun row => Bad header row)
      (rows.filterMap fun row => (faults header row).head?.map (.skippedRow (cellAt row i))) := by
  refine forall₂_filterMap (fun row hrow => ?_) (fun row hrow => ?_) rows
  · rw [faults_eq_nil_iff.2 hrow]
    rfl
  · cases hfault : (faults header row).head? with
    | none => exact absurd hrow (faults_eq_nil_iff.1 (List.head?_eq_none_iff.1 hfault))
    | some error =>
      exact ⟨_, rfl, i, error, lastIndex?_eq_some_iff.1 hi, head?_faults_eq_some_iff.1 hfault, rfl⟩

lemma noticesRow_default (row : List String) :
    NoticesRow header row (defaultNotices header row i) := by
  refine ⟨_, rfl, ?_⟩
  rw [faults, List.map_filterMap]
  refine forall₂_filterMap (fun column hcolumn => ?_) (fun column hcolumn => ?_) Column.all
  · rw [faultIn?_eq_none_iff.2 hcolumn]
    rfl
  · obtain ⟨j, fault, hrefused⟩ := hcolumn
    rw [faultIn?_eq_some_iff.2 ⟨j, fault, hrefused, rfl⟩]
    exact ⟨_, rfl, i, j, fault, lastIndex?_eq_some_iff.1 hi, hrefused, rfl⟩

end Rows

/-! ### The warnings of a table -/

lemma level_of_mem_fill {policy : Policy} {row : List String} {columns : List (Column × ℕ)}
    {job : Job} {notice : Notice} (h : notice ∈ (fill policy row columns job).notices) :
    notice.level = .warn := by
  induction columns generalizing job with
  | nil =>
    rw [fill] at h
    split at h
    · rw [List.mem_singleton.1 h]
      rfl
    · exact absurd h List.not_mem_nil
  | cons column columns ih =>
    rw [fill] at h
    split at h
    · exact ih h
    · cases policy with
      | reject => exact absurd h List.not_mem_nil
      | skipJob =>
        rw [List.mem_singleton.1 h]
        rfl
      | default =>
        rcases List.mem_cons.1 h with rfl | hrest
        · rfl
        · exact ih hrest

/-- All that is noticed about rows is a warning. -/
lemma level_of_mem_readRows {policy : Policy} {i : ℕ} {columns : List (Column × ℕ)}
    {rows : List (List String)} {notice : Notice}
    (h : notice ∈ (readRows policy i columns rows).notices) : notice.level = .warn := by
  induction rows with
  | nil => exact absurd h List.not_mem_nil
  | cons row rows ih =>
    rw [readRows, Reported.andThenOk] at h
    split at h
    · exact level_of_mem_fill h
    · rcases List.mem_append.1 h with hrow | hrest
      · exact level_of_mem_fill hrow
      · exact ih hrest

section Read

variable {text : String} {header : List String} {rows : List (List String)} {i : ℕ}
  (hgrid : (filledLines text.toList).map cells = header :: rows)
  (hi : lastIndex? Column.id.header header = some i)
include hgrid hi

/-- The warnings of a table are what is noticed about its rows. -/
lemma warnings_read (policy : Policy) :
    warnings (read policy text) = (readRows policy i (presentColumns header) rows).notices := by
  have hread : (read policy text).notices = (absentColumns header).map .absentColumn ++
      (readRows policy i (presentColumns header) rows).notices := by
    rw [read, hgrid, readGrid, hi]
  have habsent : ((absentColumns header).map Notice.absentColumn).filter
      (fun notice => notice.level = .warn) = [] := by
    refine List.filter_eq_nil_iff.2 fun notice hnotice => ?_
    obtain ⟨column, -, rfl⟩ := List.mem_map.1 hnotice
    simp [Notice.level]
  rw [warnings, hread, List.filter_append, habsent, List.nil_append]
  exact List.filter_eq_self.2 fun notice hnotice => by simp [level_of_mem_readRows hnotice]

lemma warnings_reject : warnings (read .reject text) = [] := by
  rw [warnings_read hgrid hi, notices_readRows_reject hi]

/-- Under the policy that leaves out bad rows, the rows that are left out are noticed, one by one. -/
lemma warnings_skipJob :
    ∃ jobs, (read .skipJob text).value = .ok jobs ∧
      List.Forall₂ (IsJobOf header) (rows.filter fun row => ¬ Bad header row) jobs ∧
      List.Forall₂ (NoticesSkip header) (rows.filter fun row => Bad header row)
        (warnings (read .skipJob text)) ∧
      jobs.length + (warnings (read .skipJob text)).length = rows.length := by
  have hjobs : List.Forall₂ (IsJobOf header) (rows.filter fun row => ¬ Bad header row)
      ((rows.filter fun row => ¬ Bad header row).map (rowJob header)) := forall₂_isJobOf_map _
  have hskipped : List.Forall₂ (NoticesSkip header) (rows.filter fun row => Bad header row)
      (warnings (read .skipJob text)) := by
    rw [warnings_read hgrid hi, notices_readRows_skipJob hi]
    exact forall₂_noticesSkip hi rows
  have hrows := rows.length_eq_length_filter_add fun row => decide (Bad header row)
  refine ⟨_, (value_read_cons .skipJob hgrid hi).trans (value_readRows_skipJob hi rows), hjobs,
    hskipped, ?_⟩
  rw [← hjobs.length_eq, ← hskipped.length_eq, hrows, Nat.add_comm]
  simp only [decide_not]

/-- Under the policy that keeps defaults, every row is noticed with its bad cells. -/
lemma warnings_default :
    ∃ jobs notices, (read .default text).value = .ok jobs ∧
      List.Forall₂ (IsJobOf header) (rows.filter fun row => Named header row) jobs ∧
      List.Forall₂ (NoticesRow header) rows notices ∧
      warnings (read .default text) = notices.flatten := by
  refine ⟨_, rows.map fun row => defaultNotices header row i,
    (value_read_cons .default hgrid hi).trans (value_readRows_default hi rows),
    forall₂_isJobOf_map _, ?_, ?_⟩
  · rw [List.forall₂_map_right_iff, List.forall₂_same]
    exact fun row _ => noticesRow_default hi row
  · rw [warnings_read hgrid hi, notices_readRows_default hi, List.flatMap_def]

end Read

end Table

end NodeDemand
