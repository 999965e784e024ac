/-
# Criteria, one after the other

Selecting keeps exactly the jobs that meet every criterion that is set, on either way through it
(`value_select_eq_filter`).  So selecting by several criteria one after the other is filtering once
by all of them (`selectEach_eq_filter`), and the order in which they select does not matter
(`select_conjunctive`).
-/
import NodeDemand.Proofs.Candidates

namespace NodeDemand.Criteria

instance (criteria : Criteria) (job : Job) : Decidable (criteria.Meets job) :=
  decidable_of_iff (criteria.accepts job = true) accepts_iff

lemma value_select_eq_filter (criteria : Criteria) (jobs : List Job) :
    (criteria.select jobs).value = jobs.filter fun job => criteria.Meets job := by
  rw [value_select]
  refine List.filter_congr fun job _ => ?_
  rw [Bool.eq_iff_iff, accepts_iff, decide_eq_true_iff]

/-- The jobs that are left when criteria select one after the other. -/
def selectEach (sequence : List Criteria) (jobs : List Job) : List Job :=
  sequence.foldl (fun left criteria => (criteria.select left).value) jobs

/-- What is left is what meets all of the criteria. -/
lemma selectEach_eq_filter (sequence : List Criteria) (jobs : List Job) :
    selectEach sequence jobs =
      jobs.filter fun job => ∀ criteria ∈ sequence, criteria.Meets job := by
  unfold selectEach
  induction sequence generalizing jobs with
  | nil => simp
  | cons criteria sequence ih =>
    rw [List.foldl_cons, ih, value_select_eq_filter, List.filter_filter]
    refine List.filter_congr fun job _ => ?_
    rw [Bool.eq_iff_iff, Bool.and_eq_true, decide_eq_true_iff, decide_eq_true_iff,
      decide_eq_true_iff, List.forall_mem_cons, and_comm]

/-- **Selecting is filtering by all criteria at once.**  The jobs that meet every criterion that is
set are kept, each as often as it occurs, in order and as they are.  Where no criterion is set
every job is accepted, so a list that is passed on as it is has been filtered too.  Selecting
again by the same criteria changes nothing, and criteria that select one after the other, in
whatever order, keep the jobs that meet all of them. -/
theorem select_conjunctive (criteria : Criteria) (jobs : List Job) :
    (criteria.select jobs).value = (jobs.filter fun job => criteria.Meets job) ∧
    (∀ job, criteria.accepts job = true ↔ criteria.Meets job) ∧
    (criteria.isEmpty = true →
      (∀ job, criteria.accepts job = true) ∧ (criteria.select jobs).value = jobs) ∧
    (criteria.select (criteria.select jobs).value).value = (criteria.select jobs).value ∧
    (∀ sequence : List Criteria, selectEach sequence jobs =
      jobs.filter fun job => ∀ criteria ∈ sequence, criteria.Meets job) ∧
    (∀ sequence sequence' : List Criteria, sequence.Perm sequence' →
      selectEach sequence jobs = selectEach sequence' jobs) := by
  refine ⟨value_select_eq_filter criteria jobs, fun job => accepts_iff, ?_, ?_, ?_, ?_⟩
  · intro hempty
    refine ⟨accepts_of_isEmpty hempty, ?_⟩
    rw [value_select]
    exact List.filter_eq_self.2 fun job _ => accepts_of_isEmpty hempty job
  · rw [value_select, value_select, List.filter_filter]
    simp only [Bool.and_self]
  · exact fun sequence => selectEach_eq_filter sequence jobs
  · intro sequence sequence' hperm
    rw [selectEach_eq_filter, selectEach_eq_filter]
    simp only [hperm.mem_iff]

end NodeDemand.Criteria
