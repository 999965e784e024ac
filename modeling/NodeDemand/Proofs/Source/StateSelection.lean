/-
# What a list of states selects from a captured table

A captured table gives the jobs of its text whose states are selected, in order and as they are,
and it is refused exactly if its text is (`value_jobs_captured_eq`).  The list selects all states,
or the states that its entries denote.  A list that spells states selects the jobs in these states
and no other jobs, however the list is spaced (`jobs_selected`).
-/
import NodeDemand.Proofs.Job.StateSpelling
import NodeDemand.Proofs.Source.Agreement

namespace NodeDemand.Source

variable {world : World} {path text : String}

/-- A state is selected by a list that selects all states, or by an entry that denotes it. -/
lemma selectsState_iff {states : String} {state : JobState} :
    SelectsState states state ↔
      stateEntries states = [] ∨ (∃ entry ∈ stateEntries states, IsAll entry) ∨
        ∃ entry ∈ stateEntries states, JobState.ofText (String.ofList entry) = state := by
  rw [SelectsState, readStates_eq_none_iff, or_assoc]

/-- The jobs of the text are kept by their states; a text that is refused gives no job. -/
lemma value_jobs_captured_eq (policy : Policy) (states : String)
    (hfile : world.readFile path = .ok (Utf8.encode text)) :
    ((captured path policy (some states)).jobs world).value =
      ((Table.read policy text).value.mapError .table).map (keepStates (some states)) := by
  rw [value_jobs_captured, value_jobs_captured_of_readFile policy hfile]

/-- A list that spells states keeps the jobs in these states. -/
lemma keepStates_joinWith {parts : List (List Char)} {selected : List JobState}
    (h : SpellsStates parts selected) (hlist : ∀ state ∈ selected, state.Listable)
    (hne : selected ≠ []) (jobs : List Job) :
    keepStates (some (String.ofList (Text.joinWith [','] parts))) jobs =
      jobs.filter fun job => job.state ∈ selected := by
  rw [keepStates, Option.bind_some, h.readStates_joinWith hlist hne]
  exact List.filter_congr fun job _ => List.elem_eq_mem job.state selected

/-- **A list of states selects by state and nothing else.**  For a file that holds a text, a table
that is refused is refused with the same error.  Otherwise the jobs of the table are given, in
order and as they are, whose state is denoted by an entry of the list, or all of them if the list
has no entry or one that stands for all states.  So a list that spells states selects the jobs in
these states. -/
theorem jobs_selected (policy : Policy) (hfile : world.readFile path = .ok (Utf8.encode text)) :
    (∀ states error, (Table.read policy text).value = .error error →
      ((captured path policy (some states)).jobs world).value = .error (.table error)) ∧
    (∀ states found, (Table.read policy text).value = .ok found →
      ((captured path policy (some states)).jobs world).value = .ok (found.filter fun job =>
        stateEntries states = [] ∨ (∃ entry ∈ stateEntries states, IsAll entry) ∨
          ∃ entry ∈ stateEntries states, JobState.ofText (String.ofList entry) = job.state)) ∧
    (∀ parts selected, SpellsStates parts selected → selected ≠ [] →
      (∀ state ∈ selected, state.Listable) →
      ∀ found, (Table.read policy text).value = .ok found →
        ((captured path policy (some (String.ofList (Text.joinWith [','] parts)))).jobs
          world).value = .ok (found.filter fun job => job.state ∈ selected)) := by
  refine ⟨?_, ?_, ?_⟩
  · intro states error herror
    rw [value_jobs_captured_eq policy states hfile, herror]
    rfl
  · intro states found hfound
    rw [value_jobs_captured_eq policy states hfile, hfound]
    change Except.ok (keepStates (some states) found) = _
    rw [keepStates_eq_filter]
    simp only [selectsState_iff]
  · intro parts selected hspells hne hlist found hfound
    rw [value_jobs_captured_eq policy _ hfile, hfound]
    exact congrArg Except.ok (keepStates_joinWith hspells hlist hne found)

/-- A table with a pending job, a running one and one in a state that is not known. -/
def threeStates : List (List String) := [["ST", "JOBID"], ["BF", "5"], ["pd", "6"], ["r", "7"]]

/-- A world in which every file holds that table. -/
def threeStatesWorld : World where
  file _ := .ok (Utf8.encode (Table.writeGrid threeStates))
  run _ := .error .unsupported

/-- A list with a blank part and with blanks around its codes selects two of the jobs. -/
theorem jobs_selected_threeStates :
    threeStatesWorld.readFile "t" = .ok (Utf8.encode (Table.writeGrid threeStates)) ∧
    SpellsStates [[' ', 'R'], ['\t'], ['B', 'F', ' ']] [.running, .unknown "BF"] ∧
    (∀ state ∈ [JobState.running, .unknown "BF"], state.Listable) ∧
    ((captured "t" .reject (some " R,\t,BF ")).jobs threeStatesWorld).value =
      .ok [{ id := "5", state := .unknown "BF" }, { id := "7", state := .running }] := by
  have hfile : threeStatesWorld.readFile "t" =
      .ok (Utf8.encode (Table.writeGrid threeStates)) := if_pos (by decide)
  have hspace : ∀ c ∈ [' '], Text.isBlank c = true := List.forall_mem_singleton.2 (by decide)
  have htab : ∀ c ∈ ['\t'], Text.isBlank c = true := List.forall_mem_singleton.2 (by decide)
  have hnone : ∀ c ∈ [], Text.isBlank c = true := by simp
  have hspells : SpellsStates [[' ', 'R'], ['\t'], ['B', 'F', ' ']] [.running, .unknown "BF"] :=
    @SpellsStates.code [' '] [] _ .running _ hspace hnone
      (.blank htab (@SpellsStates.code [] [' '] [] (.unknown "BF") [] hnone hspace .nil))
  have hlist : ∀ state ∈ [JobState.running, .unknown "BF"], state.Listable := by
    intro state hstate
    rcases List.mem_pair.1 hstate with rfl | rfl
    · exact ⟨⟨"R", by decide +kernel⟩, by simp, by simp, by simp⟩
    · exact ⟨⟨"BF", by decide +kernel⟩, by simp, by simp, by simp [IsAll, Text.asciiLowerCase]⟩
  have hrows : ∀ row ∈ threeStates, Table.FitsRow row := by
    intro row hrow
    simp only [threeStates, List.mem_cons, List.not_mem_nil, or_false] at hrow
    rcases hrow with rfl | rfl | rfl | rfl
    · exact ⟨by decide +kernel, "JOBID", by decide, by decide⟩
    · exact ⟨by decide +kernel, "5", by decide, by decide⟩
    · exact ⟨by decide +kernel, "6", by decide, by decide⟩
    · exact ⟨by decide +kernel, "7", by decide, by decide⟩
  have hread : (Table.read .reject (Table.writeGrid threeStates)).value =
      .ok [{ id := "5", state := .unknown "BF" }, { id := "6" },
        { id := "7", state := .running }] := by
    rw [Table.read, Table.grid_writeGrid hrows]
    decide +kernel
  exact ⟨hfile, hspells, hlist,
    (jobs_selected .reject hfile).2.2 _ _ hspells (by decide) hlist _ hread⟩

end NodeDemand.Source
