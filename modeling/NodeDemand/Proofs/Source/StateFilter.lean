/-
# Captured tables filtered by state

A captured table gives the jobs of its text that are in a selected state
(`value_jobs_captured`, `keepStates_eq_filter`).  The known states are selected without regard to
case, but a state that is not known is compared as it stands, both in the table and in the list.
So the case of a list matters for exactly those tables that have a job in such a state whose code
is written in one of the two lists only (`jobs_toUpper_iff`).
-/
import NodeDemand.Proofs.Job.StateList
import NodeDemand.Proofs.Table.Cells
import NodeDemand.Proofs.Table.Policies
import NodeDemand.Proofs.Text.Utf8
import NodeDemand.Source

namespace NodeDemand

/-! ### The states of the jobs of a table -/

namespace Table

/-- The job of a row is in the state that its cell denotes, or in the initial state. -/
lemma state_rowJob (header row : List String) :
    ∃ text, JobState.ofText text = (rowJob header row).state := by
  change ∃ text, JobState.ofText text = valueIn header row .state
  rw [valueIn, valueIn?]
  cases lastIndex? Column.state.header header with
  | none => exact ⟨"PD", JobState.ofText_code_of_mem_known .pending (by decide)⟩
  | some i => exact ⟨cellAt row i, rfl⟩

/-- Every job of a table is in a state that some text denotes. -/
lemma state_of_mem_read {policy : Policy} {text : String} {jobs : List Job}
    (h : (read policy text).value = .ok jobs) {job : Job} (hjob : job ∈ jobs) :
    ∃ text, JobState.ofText text = job.state := by
  obtain ⟨header, -, row, -, -, rfl⟩ := exists_row_of_mem_read h hjob
  exact state_rowJob header row

end Table

namespace Source

/-! ### Selecting by state -/

/-- A list of states keeps the jobs that are in a selected state. -/
lemma keepStates_eq_filter (states : String) (jobs : List Job) :
    keepStates (some states) jobs = jobs.filter fun job => SelectsState states job.state := by
  unfold keepStates
  rw [Option.bind_some]
  cases hread : readStates states with
  | none => exact (List.filter_eq_self.2 fun job _ => by simp [SelectsState, hread]).symm
  | some selected =>
    refine List.filter_congr fun job _ => ?_
    rw [Bool.eq_iff_iff, List.contains_iff_mem, decide_eq_true_iff]
    exact mem_of_readStates_eq_some hread job.state

/-- Two lists of states keep the same jobs if they select the same of their states. -/
lemma keepStates_eq_iff {a b : String} {jobs : List Job} :
    keepStates (some a) jobs = keepStates (some b) jobs ↔
      ∀ job ∈ jobs, SelectsState a job.state ↔ SelectsState b job.state := by
  rw [keepStates_eq_filter, keepStates_eq_filter]
  constructor
  · intro h job hjob
    have hmem : job ∈ jobs.filter (fun job => SelectsState a job.state) ↔
        job ∈ jobs.filter (fun job => SelectsState b job.state) := by rw [h]
    simpa [List.mem_filter, hjob] using hmem
  · intro h
    exact List.filter_congr fun job hjob => by simp only [h job hjob]

/-! ### Captured tables -/

variable {world : World} {path : String} {policy : Policy}

/-- A list of states selects among the jobs that a captured table gives without a list. -/
lemma value_jobs_captured (world : World) (path : String) (policy : Policy)
    (states : Option String) :
    ((captured path policy states).jobs world).value =
      ((captured path policy none).jobs world).value.map (keepStates states) := by
  rw [jobs, jobs]
  cases world.readText path with
  | error failure => rfl
  | ok text =>
    change (ofTable policy text).value.map (keepStates states) =
      ((ofTable policy text).value.map id).map (keepStates states)
    cases (ofTable policy text).value <;> rfl

/-- Without a list of states, a captured table gives the jobs of the text in its file. -/
lemma value_jobs_captured_eq_ok_iff {found : List Job} :
    ((captured path policy none).jobs world).value = .ok found ↔
      ∃ text, world.readText path = .ok text ∧ (Table.read policy text).value = .ok found := by
  rw [jobs]
  cases world.readText path with
  | error failure => simp
  | ok text =>
    change ((Table.read policy text).value.mapError Failure.table).map id = _ ↔ _
    cases hread : (Table.read policy text).value <;> simp [hread, Except.mapError, Except.map]

/-- Two lists of states give the same for a captured table if they keep the same of its jobs. -/
lemma value_jobs_captured_eq_iff {a b : Option String} :
    ((captured path policy a).jobs world).value = ((captured path policy b).jobs world).value ↔
      ∀ found, ((captured path policy none).jobs world).value = .ok found →
        keepStates a found = keepStates b found := by
  rw [value_jobs_captured _ _ _ a, value_jobs_captured _ _ _ b]
  cases ((captured path policy none).jobs world).value <;> simp [Except.map]

/-- Every job of a captured table is in a state that some text denotes. -/
lemma state_of_mem_captured {found : List Job}
    (h : ((captured path policy none).jobs world).value = .ok found) {job : Job}
    (hjob : job ∈ found) : ∃ text, JobState.ofText text = job.state := by
  obtain ⟨text, -, hread⟩ := value_jobs_captured_eq_ok_iff.1 h
  exact Table.state_of_mem_read hread hjob

/-- A file that holds the bytes of a text is read as that text. -/
lemma readText_of_readFile {text : String} (hfile : world.readFile path = .ok (Utf8.encode text)) :
    world.readText path = .ok text := by
  rw [World.readText, hfile]
  simp only [Utf8.decode_encode, String.ofList_toList]

lemma readText_encode {text : String} (hpath : isPassable path = true)
    (hfile : world.file path = .ok (Utf8.encode text)) : world.readText path = .ok text :=
  readText_of_readFile ((if_pos hpath).trans hfile)

/-! ### Lists of states in upper case -/

/-- **The case of a list of states matters for unknown codes only.**  A captured table gives the
same jobs, or the same failure, for a list and for the list in upper case exactly if the list
selects every state, or the code of every job of the table in a state that is not known is an
entry of both lists or of none. -/
theorem jobs_toUpper_iff (world : World) (path : String) (policy : Policy) (states : String) :
    ((captured path policy (some states.toUpper)).jobs world).value =
        ((captured path policy (some states)).jobs world).value ↔
      readStates states = none ∨
        ∀ found, ((captured path policy none).jobs world).value = .ok found →
          ∀ job ∈ found, ∀ code, job.state = .unknown code →
            (code.toList ∈ (stateEntries states).map (List.map Char.toUpper) ↔
              code.toList ∈ stateEntries states) := by
  rw [value_jobs_captured_eq_iff]
  constructor
  · intro h
    refine or_iff_not_imp_left.2 fun hall found hfound job hjob code hcode => ?_
    have hselects := keepStates_eq_iff.1 (h found hfound) job hjob
    have hdenoted := state_of_mem_captured hfound hjob
    exact ((selectsState_toUpper_same_iff hdenoted).1 hselects).resolve_left hall code hcode
  · intro h found hfound
    refine keepStates_eq_iff.2 fun job hjob => ?_
    have hdenoted := state_of_mem_captured hfound hjob
    exact (selectsState_toUpper_same_iff hdenoted).2 (h.imp_right fun hcodes =>
      hcodes found hfound job hjob)

/-- A table with a job in a state that is not known. -/
def backfillTable : List (List String) := [["JOBID", "ST"], ["5", "BF"]]

/-- A world in which every file holds that table. -/
def backfillWorld : World where
  file _ := .ok (Utf8.encode (Table.writeGrid backfillTable))
  run _ := .error .unsupported

/-- The list `BF` selects the job of the table and the list `bf` selects none. -/
theorem jobs_toUpper_backfill :
    ((captured "t" .reject (some "bf".toUpper)).jobs backfillWorld).value ≠
      ((captured "t" .reject (some "bf")).jobs backfillWorld).value := by
  have hrows : ∀ row ∈ backfillTable, Table.FitsRow row := by
    intro row hrow
    rcases List.mem_pair.1 hrow with rfl | rfl
    · exact ⟨by decide +kernel, "JOBID", by decide, by decide⟩
    · exact ⟨by decide +kernel, "5", by decide, by decide⟩
  have hread : (Table.read .reject (Table.writeGrid backfillTable)).value =
      .ok [{ id := "5", state := .unknown "BF" }] := by
    rw [Table.read, Table.grid_writeGrid hrows]
    decide +kernel
  have hfound : ((captured "t" .reject none).jobs backfillWorld).value =
      .ok [{ id := "5", state := .unknown "BF" }] :=
    value_jobs_captured_eq_ok_iff.2 ⟨_, readText_encode (by decide) rfl, hread⟩
  have hupper : "bf".toUpper = "BF" := by
    rw [← String.toList_inj, String.toUpper, String.toList_map]
    decide
  rw [value_jobs_captured _ _ _ (some _), value_jobs_captured _ _ _ (some "bf"), hfound, hupper]
  decide +kernel

end Source

end NodeDemand
