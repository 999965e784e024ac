/-
# A gateway that fails

The gateway program may not start, end by a signal or with any code, and leave any bytes on its
two streams.  `Source.jobs_gateway` says what each of these outcomes gives: the table that was
printed is read if the program exits with code zero and has printed the bytes of a text, and in
every other case there is a failure and nothing else.  How the program ended counts before what it
printed, and its standard error never counts.

A failure ends all work at once (`pendingJobs_of_error`): no row that was printed before is read,
so no job is left out, computed or selected, and the command is the only thing noticed.
-/
import NodeDemand.Pending
import NodeDemand.Proofs.Text.WellFormed

namespace NodeDemand

/-! ### What a program has printed -/

namespace Run

variable {program : String} {run : Run}

lemma text_of_ne (h : run.ending ≠ .exited 0) :
    run.text program = .error (.command program (.failed run)) := by
  rw [text, check, if_neg h]

lemma text_of_decode_error {error : Utf8.Error} (h : run.ending = .exited 0)
    (hstdout : Utf8.decode run.stdout = .error error) :
    run.text program = .error (.command program (.notText error)) := by
  rw [text, check, if_pos h]
  simp only [hstdout]

lemma text_of_decode_ok {cs : List Char} (h : run.ending = .exited 0)
    (hstdout : Utf8.decode run.stdout = .ok cs) :
    run.text program = .ok (String.ofList cs) := by
  rw [text, check, if_pos h]
  simp only [hstdout]

end Run

/-! ### Failures end all work -/

/-- A source that fails gives its failure, and nothing is noticed but what the source notices. -/
lemma pendingJobs_of_error {world : World} {source : Source} {failure : Failure}
    (h : (source.jobs world).value = .error failure) (shape : NodeShape) (criteria : Criteria) :
    pendingJobs world source shape criteria = ⟨.error failure, (source.jobs world).notices⟩ := by
  rw [pendingJobs, Reported.andThenOk, h]

namespace Source

/-- Whoever asks the gateway for jobs, or for the pending ones that count, gets the failure, and
nothing is noticed but the command. -/
structure FailsWith (world : World) (caller : Gateway) (policy : Policy) (states : Option String)
    (failure : Failure) : Prop where
  /-- There are no jobs. -/
  jobs_eq : (gateway caller policy states).jobs world =
    ⟨.error failure, [.runningCommand (caller.command states)]⟩
  /-- There are no pending jobs. -/
  pendingJobs_eq : ∀ shape criteria,
    pendingJobs world (gateway caller policy states) shape criteria =
      ⟨.error failure, [.runningCommand (caller.command states)]⟩

section Gateway

variable {world : World} {caller : Gateway} {states : Option String}

/-- The gateway gives what its program has printed, if the program has run. -/
lemma capture_of_run {run : Run} (h : world.runCommand (caller.command states) = .ok run) :
    world.capture (caller.command states) =
      ⟨run.text caller.program, [.runningCommand (caller.command states)]⟩ := by
  rw [World.capture]
  simp only [h]
  rfl

lemma capture_of_fault {fault : IoFault}
    (h : world.runCommand (caller.command states) = .error fault) :
    world.capture (caller.command states) =
      ⟨.error (.io fault), [.runningCommand (caller.command states)]⟩ := by
  rw [World.capture]
  simp only [h]

lemma failsWith_of_capture (policy : Policy) {failure : Failure}
    (h : world.capture (caller.command states) =
      ⟨.error failure, [.runningCommand (caller.command states)]⟩) :
    FailsWith world caller policy states failure := by
  have hjobs : (gateway caller policy states).jobs world =
      ⟨.error failure, [.runningCommand (caller.command states)]⟩ := by
    rw [jobs, Reported.andThenOk, h]
  refine ⟨hjobs, fun shape criteria => ?_⟩
  rw [pendingJobs_of_error (by rw [hjobs]), hjobs]

lemma jobs_of_capture (policy : Policy) {text : String}
    (h : world.capture (caller.command states) =
      ⟨.ok text, [.runningCommand (caller.command states)]⟩) :
    (gateway caller policy states).jobs world =
      ⟨(Table.read policy text).value.mapError .table,
        .runningCommand (caller.command states) :: (Table.read policy text).notices.map .table⟩ := by
  rw [jobs, Reported.andThenOk, h]
  rfl

end Gateway

/-- **A gateway that fails gives no part of a result.**  If the program cannot be started, the
failure is that of the world.  If it does not exit with code zero, the failure names the program,
whatever it has printed; and so it does if it exits with code zero but has not printed the bytes of
a text.  In these cases neither the jobs nor the pending ones are given, and the command is all
that is noticed.  Otherwise the text that was printed is read as a table. -/
theorem jobs_gateway (world : World) (caller : Gateway) (policy : Policy)
    (states : Option String) :
    match world.runCommand (caller.command states) with
    | .error fault => FailsWith world caller policy states (.io fault)
    | .ok run =>
      (run.ending ≠ .exited 0 ∧
        FailsWith world caller policy states (.command caller.program (.failed run))) ∨
      (run.ending = .exited 0 ∧ (∀ text, run.stdout ≠ Utf8.encode text) ∧
        ∃ error, FailsWith world caller policy states (.command caller.program (.notText error))) ∨
      (run.ending = .exited 0 ∧ ∃ text, run.stdout = Utf8.encode text ∧
        (gateway caller policy states).jobs world =
          ⟨(Table.read policy text).value.mapError .table,
            .runningCommand (caller.command states) ::
              (Table.read policy text).notices.map .table⟩) := by
  cases hrun : world.runCommand (caller.command states) with
  | error fault => exact failsWith_of_capture policy (capture_of_fault hrun)
  | ok run =>
    have hcapture := capture_of_run hrun
    by_cases hending : run.ending = .exited 0
    · cases hstdout : Utf8.decode run.stdout with
      | error error =>
        -- no text has these bytes, since the reader would have found it
        refine Or.inr (Or.inl ⟨hending, fun text htext => ?_, error, ?_⟩)
        · rw [htext, Utf8.decode_encode] at hstdout
          exact absurd hstdout (by simp)
        · rw [Run.text_of_decode_error hending hstdout] at hcapture
          exact failsWith_of_capture policy hcapture
      | ok cs =>
        rw [Run.text_of_decode_ok hending hstdout] at hcapture
        exact Or.inr (Or.inr ⟨hending, String.ofList cs, Utf8.decode_eq_ok_iff.1 hstdout,
          jobs_of_capture policy hcapture⟩)
    · rw [Run.text_of_ne hending] at hcapture
      exact Or.inl ⟨hending, failsWith_of_capture policy hcapture⟩

end Source

end NodeDemand
