/-
# Sources of one snapshot agree

A table may be captured in a file, printed by the gateway or read already.  In each case the same
jobs count, and a table that is refused is refused with the same error (`pendingJobs_agree`).

A captured table leaves out jobs by their states before the pending ones are taken, and the gateway
does so on its own.  Leaving out jobs early changes nothing as long as the pending ones are kept
(`candidates_keepStates`), whatever the other jobs are.
-/
import NodeDemand.Proofs.Pending
import NodeDemand.Proofs.Source.StateFilter

namespace NodeDemand

/-! ### The jobs of a source -/

namespace World

variable {world : World} {text : String}

/-- A program that ends well and prints the bytes of a text has printed the text. -/
lemma value_capture {command : List String} {stderr : List UInt8}
    (hrun : world.runCommand command = .ok ⟨.exited 0, Utf8.encode text, stderr⟩) :
    (world.capture command).value = .ok text := by
  simp [capture, hrun, Run.text, Run.check, Utf8.decode_encode]

end World

namespace Source

variable {world : World} {text : String}

lemma value_ofTable (policy : Policy) (text : String) :
    (ofTable policy text).value = (Table.read policy text).value.mapError .table := rfl

lemma value_jobs_captured_of_readFile {path : String} (policy : Policy)
    (hfile : world.readFile path = .ok (Utf8.encode text)) :
    ((captured path policy none).jobs world).value =
      (Table.read policy text).value.mapError .table := by
  rw [jobs, readText_of_readFile hfile, ← value_ofTable]
  change (ofTable policy text).value.map id = _
  cases (ofTable policy text).value <;> rfl

lemma value_jobs_gateway {caller : Gateway} {states : Option String} (policy : Policy)
    {stderr : List UInt8}
    (hrun : world.runCommand (caller.command states) =
      .ok ⟨.exited 0, Utf8.encode text, stderr⟩) :
    ((gateway caller policy states).jobs world).value =
      (Table.read policy text).value.mapError .table := by
  rw [jobs, Reported.andThenOk, World.value_capture hrun]
  rfl

end Source

/-! ### The jobs that count -/

variable {world : World} {shape : NodeShape} {criteria : Criteria}

/-- Leaving out jobs by their states first changes nothing if the pending jobs are kept. -/
lemma candidates_keepStates {states : String} (h : SelectsState states .pending)
    (jobs : List Job) :
    candidates shape criteria (Source.keepStates (some states) jobs) =
      candidates shape criteria jobs := by
  rw [Source.keepStates_eq_filter, candidates, candidates, List.filter_filter]
  congr 1
  refine List.filter_congr fun job _ => ?_
  by_cases hpending : job.state = .pending
  · simp [hpending, h]
  · simp [hpending]

lemma pendingJobs_captured_states (path : String) (policy : Policy) {states : String}
    (h : SelectsState states .pending) :
    (pendingJobs world (.captured path policy (some states)) shape criteria).value =
      (pendingJobs world (.captured path policy none) shape criteria).value := by
  rw [value_pendingJobs, value_pendingJobs, Source.value_jobs_captured _ _ _ (some states)]
  cases ((Source.captured path policy none).jobs world).value with
  | error failure => rfl
  | ok jobs => exact congrArg Except.ok (candidates_keepStates h jobs)

/-- A source that yields what a table holds gives what the jobs of the table give. -/
lemma value_pendingJobs_of_table (shape : NodeShape) (criteria : Criteria) {source : Source}
    {policy : Policy} {text : String}
    (h : (source.jobs world).value = (Table.read policy text).value.mapError .table) :
    (pendingJobs world source shape criteria).value =
      match (Table.read policy text).value with
      | .ok jobs => (pendingJobs world (.snapshot jobs) shape criteria).value
      | .error error => .error (.table error) := by
  rw [value_pendingJobs, h]
  cases (Table.read policy text).value with
  | ok jobs => exact (value_pendingJobs shape criteria world (.snapshot jobs)).symm
  | error error => rfl

/-- **All sources of a snapshot agree.**  If a file holds a text and the gateway ends well after
printing it, then the table of the text gives the same jobs, or the same error, whether it is read
from the file, with or without a selection of the pending jobs, or from the gateway, or its jobs
are at hand.  More generally no list of states that selects pending jobs changes what a captured
table gives. -/
theorem pendingJobs_agree (world : World) (path : String) (caller : Gateway)
    (states : Option String) (policy : Policy) (text : String) (stderr : List UInt8)
    (shape : NodeShape) (criteria : Criteria)
    (hfile : world.readFile path = .ok (Utf8.encode text))
    (hrun : world.runCommand (caller.command states) =
      .ok ⟨.exited 0, Utf8.encode text, stderr⟩) :
    (∀ source ∈ [Source.captured path policy none,
        .captured path policy (some Gateway.pendingStates), .gateway caller policy states],
      (pendingJobs world source shape criteria).value =
        match (Table.read policy text).value with
        | .ok jobs => (pendingJobs world (.snapshot jobs) shape criteria).value
        | .error error => .error (.table error)) ∧
    (∀ list, SelectsState list .pending →
      (pendingJobs world (.captured path policy (some list)) shape criteria).value =
        (pendingJobs world (.captured path policy none) shape criteria).value) := by
  have hcaptured := value_pendingJobs_of_table shape criteria
    (Source.value_jobs_captured_of_readFile policy hfile)
  have hgateway := value_pendingJobs_of_table shape criteria
    (Source.value_jobs_gateway policy hrun)
  have hpending : SelectsState Gateway.pendingStates .pending := by decide +kernel
  refine ⟨?_, fun list hlist => pendingJobs_captured_states path policy hlist⟩
  simp only [List.forall_mem_cons, List.not_mem_nil, false_imp_iff, implies_true, and_true]
  refine ⟨hcaptured, ?_, hgateway⟩
  rw [pendingJobs_captured_states path policy hpending, hcaptured]

/-- A table with a job in a state that is not known and a pending job. -/
def mixedTable : List (List String) := [["JOBID", "ST"], ["5", "BF"], ["6", "pd"]]

/-- A world in which every file holds that table, and every program prints it and complains. -/
def mixedWorld : World where
  file _ := .ok (Utf8.encode (Table.writeGrid mixedTable))
  run _ := .ok ⟨.exited 0, Utf8.encode (Table.writeGrid mixedTable), Utf8.encode "slow"⟩

/-- Every source of that table gives its pending job. -/
theorem pendingJobs_agree_mixedTable :
    mixedWorld.readFile "t" = .ok (Utf8.encode (Table.writeGrid mixedTable)) ∧
    mixedWorld.runCommand (Gateway.command {} (some Gateway.pendingStates)) =
      .ok ⟨.exited 0, Utf8.encode (Table.writeGrid mixedTable), Utf8.encode "slow"⟩ ∧
    (∀ source ∈ [Source.captured "t" .reject none,
        .captured "t" .reject (some Gateway.pendingStates),
        .gateway {} .reject (some Gateway.pendingStates)],
      (pendingJobs mixedWorld source {} {}).value = .ok [{ id := "6", nodes := 1 }]) ∧
    SelectsState "CG, pd" .pending ∧
    (pendingJobs mixedWorld (.captured "t" .reject (some "CG, pd")) {} {}).value =
      (pendingJobs mixedWorld (.captured "t" .reject none) {} {}).value := by
  have hfile : mixedWorld.readFile "t" = .ok (Utf8.encode (Table.writeGrid mixedTable)) :=
    if_pos (by decide)
  have hrun : mixedWorld.runCommand (Gateway.command {} (some Gateway.pendingStates)) =
      .ok ⟨.exited 0, Utf8.encode (Table.writeGrid mixedTable), Utf8.encode "slow"⟩ :=
    if_pos (by decide +kernel)
  have hrows : ∀ row ∈ mixedTable, Table.FitsRow row := by
    intro row hrow
    simp only [mixedTable, List.mem_cons, List.not_mem_nil, or_false] at hrow
    rcases hrow with rfl | rfl | rfl
    · exact ⟨by decide +kernel, "JOBID", by decide, by decide⟩
    · exact ⟨by decide +kernel, "5", by decide, by decide⟩
    · exact ⟨by decide +kernel, "6", by decide, by decide⟩
  have hread : (Table.read .reject (Table.writeGrid mixedTable)).value =
      .ok [{ id := "5", state := .unknown "BF" }, { id := "6" }] := by
    rw [Table.read, Table.grid_writeGrid hrows]
    decide +kernel
  have hlist : SelectsState "CG, pd" .pending := by decide +kernel
  obtain ⟨hagree, hstates⟩ := pendingJobs_agree mixedWorld "t" {} _ .reject _ _ {} {} hfile hrun
  rw [hread] at hagree
  exact ⟨hfile, hrun, hagree, hlist, hstates _ hlist⟩

end NodeDemand
