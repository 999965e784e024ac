/-
# The jobs that count, job by job

The way from a snapshot to the jobs that count goes over the whole list three times: it takes the
pending jobs, computes what they need and selects among them.  `pendingJobs_jobwise` says that
nothing but the job itself decides about a job: it is kept, with the nodes that it would need
alone in its snapshot, exactly if it is pending and accepted with that many nodes.  So a snapshot
may be split and put in another order.
-/
import NodeDemand.Proofs.Candidates

namespace NodeDemand

variable (shape : NodeShape) (criteria : Criteria)

/-- The jobs of a snapshot that count: those that are pending and accepted with the nodes that they
need, in the order of the snapshot and with these nodes. -/
def candidates (jobs : List Job) : List Job :=
  (jobs.filter fun job => job.state = .pending ∧ criteria.accepts (job.reconcile shape)).map
    (Job.reconcile shape)

lemma value_reconcile_singleton (job : Job) :
    (Requirement.reconcile shape [job]).value = [job.reconcile shape] :=
  Requirement.value_reconcile shape [job]

/-- Selecting after the computation is selecting by what the computation will give. -/
lemma value_pendingOf_eq_candidates (jobs : List Job) :
    (pendingOf shape criteria jobs).value = candidates shape criteria jobs := by
  rw [value_pendingOf, List.filter_map, List.filter_filter, candidates]
  congr 1
  refine List.filter_congr fun job _ => ?_
  rw [Function.comp_apply, JobState.isPending, Bool.and_comm]
  simp only [Bool.decide_and, Bool.decide_eq_true, beq_eq_decide]

lemma value_pendingJobs (world : World) (source : Source) :
    (pendingJobs world source shape criteria).value =
      (source.jobs world).value.map (candidates shape criteria) := by
  unfold pendingJobs Reported.andThenOk
  split
  · rename_i failure h
    rw [h]
    rfl
  · rename_i jobs h
    rw [h]
    exact congrArg Except.ok (value_pendingOf_eq_candidates shape criteria jobs)

variable {shape criteria}

/-- What is kept is a pending job of the snapshot, with the nodes that it needs. -/
lemma mem_candidates {jobs : List Job} {job : Job} :
    job ∈ candidates shape criteria jobs ↔ ∃ before ∈ jobs, before.state = .pending ∧
      before.reconcile shape = job ∧ criteria.accepts job = true := by
  simp only [candidates, List.mem_map, List.mem_filter, decide_eq_true_eq]
  constructor
  · rintro ⟨before, ⟨hmem, hpending, haccepts⟩, rfl⟩
    exact ⟨before, hmem, hpending, rfl, haccepts⟩
  · rintro ⟨before, hmem, hpending, rfl, haccepts⟩
    exact ⟨before, ⟨hmem, hpending, haccepts⟩, rfl⟩

lemma candidates_append (xs ys : List Job) :
    candidates shape criteria (xs ++ ys) =
      candidates shape criteria xs ++ candidates shape criteria ys := by
  rw [candidates, List.filter_append, List.map_append]
  rfl

lemma candidates_perm {xs ys : List Job} (h : xs.Perm ys) :
    (candidates shape criteria xs).Perm (candidates shape criteria ys) :=
  (h.filter _).map _

/-- **Every job is judged by itself.**  The result for a source is the failure of the source, or
the jobs of its snapshot that count, each as the passes over a list of this job alone leave it.
They are pending, have a node and meet all criteria.  The result for two snapshots, one after the
other, is made up of their results, and a snapshot in another order has the same result in
another order. -/
theorem pendingJobs_jobwise (world : World) (source : Source) (shape : NodeShape)
    (criteria : Criteria) :
    (∀ job, (Requirement.reconcile shape [job]).value = [job.reconcile shape]) ∧
    (pendingJobs world source shape criteria).value =
      (source.jobs world).value.map (candidates shape criteria) ∧
    (∀ jobs, (pendingJobs world source shape criteria).value = .ok jobs →
      ∀ job ∈ jobs, job.state = .pending ∧ 1 ≤ job.nodes.toNat ∧ criteria.Meets job) ∧
    (∀ xs ys, ∃ forXs forYs,
      (pendingJobs world (.snapshot xs) shape criteria).value = .ok forXs ∧
      (pendingJobs world (.snapshot ys) shape criteria).value = .ok forYs ∧
      (pendingJobs world (.snapshot (xs ++ ys)) shape criteria).value = .ok (forXs ++ forYs)) ∧
    (∀ xs ys : List Job, xs.Perm ys → ∃ forXs forYs,
      (pendingJobs world (.snapshot xs) shape criteria).value = .ok forXs ∧
      (pendingJobs world (.snapshot ys) shape criteria).value = .ok forYs ∧
      forXs.Perm forYs) := by
  have hsnapshot : ∀ jobs, (pendingJobs world (.snapshot jobs) shape criteria).value =
      .ok (candidates shape criteria jobs) := fun jobs =>
    value_pendingJobs shape criteria world (.snapshot jobs)
  refine ⟨value_reconcile_singleton shape, value_pendingJobs shape criteria world source,
    ?_, ?_, ?_⟩
  · intro jobs hjobs job hjob
    rw [value_pendingJobs] at hjobs
    cases hsource : (source.jobs world).value with
    | error failure =>
      rw [hsource] at hjobs
      exact absurd hjobs (by simp [Except.map])
    | ok snapshot =>
      rw [hsource] at hjobs
      obtain rfl := Except.ok.inj hjobs
      obtain ⟨before, -, hpending, rfl, haccepts⟩ := mem_candidates.1 hjob
      refine ⟨?_, ?_, Criteria.accepts_iff.1 haccepts⟩
      · rw [(Job.raised_reconcile shape before).eq_with]
        exact hpending
      · rw [Job.toNat_nodes_reconcile]
        omega
  · intro xs ys
    refine ⟨_, _, hsnapshot xs, hsnapshot ys, ?_⟩
    rw [hsnapshot, candidates_append]
  · intro xs ys h
    exact ⟨_, _, hsnapshot xs, hsnapshot ys, candidates_perm h⟩

end NodeDemand
