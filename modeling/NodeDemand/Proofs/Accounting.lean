/-
# No job is lost unnoticed

Jobs are left out at four places: a table leaves out rows that are bad or have no name, as the
policy says, and of a snapshot the jobs that are not pending and those that are refused are left
out.  At each of these places there is one notice for each job that is left out (`losses_noticed`),
so the jobs that are kept and the notices make up the rows of the table, or the jobs of the
snapshot.  A source that is asked for some states only has a smaller snapshot, which is not a loss.

The rows are accounted for in `NodeDemand.Proofs.Table.Warnings`, and the refusals in
`NodeDemand.Proofs.Criteria.Refusals`.
-/
import NodeDemand.Proofs.Criteria.Refusals
import NodeDemand.Proofs.Pending
import NodeDemand.Proofs.Table.Warnings

namespace NodeDemand

/-- The notice says that a job is left out because it is not pending. -/
def Notice.isIgnoredJob : Notice → Bool
  | ignoredJob .. => true
  | _ => false

/-! ### The notices of a source -/

lemma Source.exists_of_mem_notices_ofTable {policy : Policy} {text : String} {notice : Notice}
    (h : notice ∈ (ofTable policy text).notices) : ∃ inner, notice = .table inner := by
  obtain ⟨inner, -, rfl⟩ := List.mem_map.1 h
  exact ⟨inner, rfl⟩

/-- A source notices what its table has to say, and that a command is run. -/
lemma Source.exists_of_mem_notices_jobs {world : World} {source : Source} {notice : Notice}
    (h : notice ∈ (source.jobs world).notices) :
    (∃ inner, notice = .table inner) ∨ ∃ command, notice = .runningCommand command := by
  cases source with
  | snapshot jobs => exact absurd h List.not_mem_nil
  | failing failure => exact absurd h List.not_mem_nil
  | captured path policy states =>
    rw [jobs] at h
    split at h
    · exact absurd h List.not_mem_nil
    · exact Or.inl (exists_of_mem_notices_ofTable h)
  | gateway caller policy states =>
    rw [jobs, Reported.andThenOk] at h
    split at h
    · exact Or.inr ⟨_, List.mem_singleton.1 h⟩
    · rcases List.mem_append.1 h with hrun | htable
      · exact Or.inr ⟨_, List.mem_singleton.1 hrun⟩
      · exact Or.inl (exists_of_mem_notices_ofTable htable)

lemma Source.filter_isIgnoredJob_notices (world : World) (source : Source) :
    (source.jobs world).notices.filter Notice.isIgnoredJob = [] := by
  refine List.filter_eq_nil_iff.2 fun notice hnotice => ?_
  rcases exists_of_mem_notices_jobs hnotice with ⟨inner, rfl⟩ | ⟨command, rfl⟩ <;>
    simp [Notice.isIgnoredJob]

/-- Sources warn and help to find errors, but they give no information. -/
lemma Source.filter_info_notices (world : World) (source : Source) :
    (source.jobs world).notices.filter (fun notice => notice.level = .info) = [] := by
  refine List.filter_eq_nil_iff.2 fun notice hnotice => ?_
  rcases exists_of_mem_notices_jobs hnotice with ⟨inner, rfl⟩ | ⟨command, rfl⟩
  · cases inner <;> simp [Notice.level, Table.Notice.level]
  · simp [Notice.level]

/-! ### The notices about a snapshot -/

variable {shape : NodeShape} {criteria : Criteria}

/-- The pending jobs of a snapshot that the criteria refuse with the nodes that they need. -/
def refusedJobs (shape : NodeShape) (criteria : Criteria) (jobs : List Job) : List Job :=
  jobs.filter fun job => job.state = .pending ∧ criteria.accepts (job.reconcile shape) = false

/-- The notice says for which reason the job is refused with the nodes that it needs. -/
def NoticesRefusal (shape : NodeShape) (criteria : Criteria) (job : Job) (notice : Notice) : Prop :=
  ∃ refusal, notice = .criteria ⟨job.id, refusal⟩ ∧
    criteria.FirstViolated (job.reconcile shape) refusal

/-- What is noticed about a job that is refused with the nodes that it needs. -/
def refusalNotice? (shape : NodeShape) (criteria : Criteria) (job : Job) : Option Notice :=
  if job.state = .pending then (criteria.notice? (job.reconcile shape)).map .criteria else none

lemma forall₂_ignoredNotice (jobs : List Job) :
    List.Forall₂ (fun job notice => notice = .ignoredJob job.id job.state)
      (jobs.filter fun job => job.state ≠ .pending) (jobs.filterMap Job.ignoredNotice?) := by
  refine forall₂_filterMap (p := fun job : Job => job.state ≠ .pending) (fun job hjob => ?_)
    (fun job hjob => ⟨.ignoredJob job.id job.state, ?_, rfl⟩) jobs
  · rw [not_not] at hjob
    simp [Job.ignoredNotice?, JobState.isPending, hjob]
  · simp [Job.ignoredNotice?, JobState.isPending, hjob]

lemma forall₂_refusalNotice (shape : NodeShape) (criteria : Criteria) (jobs : List Job) :
    List.Forall₂ (NoticesRefusal shape criteria) (refusedJobs shape criteria jobs)
      (jobs.filterMap (refusalNotice? shape criteria)) := by
  refine forall₂_filterMap (fun job hjob => ?_) (fun job hjob => ?_) jobs
  · by_cases hpending : job.state = .pending
    · have haccepts : criteria.accepts (job.reconcile shape) = true := by
        simpa [hpending] using hjob
      rw [refusalNotice?, if_pos hpending, Criteria.notice?_of_accepts haccepts]
      rfl
    · exact if_neg hpending
  · obtain ⟨refusal, hnotice, hviolated⟩ := Criteria.notice?_of_not_accepts hjob.2
    -- the notice is made about the job with the nodes that it needs, which has the same name
    have hid : (job.reconcile shape).id = job.id := by
      rw [(Job.raised_reconcile shape job).eq_with]
    rw [hid] at hnotice
    rw [refusalNotice?, if_pos hjob.1, hnotice]
    exact ⟨_, rfl, refusal, rfl, hviolated⟩

/-- About a snapshot it is noticed first which jobs are not pending, then what the passes have to
say, and then which jobs are refused. -/
lemma notices_pendingOf (shape : NodeShape) (criteria : Criteria) (jobs : List Job) :
    (pendingOf shape criteria jobs).notices =
      jobs.filterMap Job.ignoredNotice? ++
        (Requirement.reconcile shape (jobs.filter (·.state.isPending))).notices.map .requirement ++
          jobs.filterMap (refusalNotice? shape criteria) := by
  -- criteria see the jobs that the passes leave, so their notices are brought back to the snapshot
  have hselected : (criteria.select (Requirement.reconcile shape
        (jobs.filter (·.state.isPending))).value).notices.map Notice.criteria =
      jobs.filterMap (refusalNotice? shape criteria) := by
    rw [Criteria.notices_select, Requirement.value_reconcile, List.filterMap_map,
      List.map_filterMap, List.filterMap_filter]
    congr 1
    funext job
    simp only [refusalNotice?, JobState.isPending, beq_iff_eq, Function.comp_apply]
  rw [← hselected]
  rfl

/-- The jobs of a snapshot are those that are not pending, those that are refused and those that
count. -/
lemma length_candidates (jobs : List Job) :
    jobs.length = (candidates shape criteria jobs).length +
      (jobs.filter fun job => job.state ≠ .pending).length +
        (refusedJobs shape criteria jobs).length := by
  have hstates := jobs.length_eq_length_filter_add fun job => decide (job.state = .pending)
  have hpending := (jobs.filter fun job => job.state = .pending).length_eq_length_filter_add
    fun job => criteria.accepts (job.reconcile shape)
  simp only [List.filter_filter, Bool.and_comm] at hpending
  simp only [candidates, refusedJobs, List.length_map, Bool.decide_and, Bool.decide_eq_true,
    Bool.decide_eq_false, decide_not, ne_eq]
  omega

/-! ### Telling the notices about a snapshot apart -/

lemma exists_of_mem_ignoredNotice {jobs : List Job} {notice : Notice}
    (h : notice ∈ jobs.filterMap Job.ignoredNotice?) :
    ∃ job : Job, notice = .ignoredJob job.id job.state := by
  obtain ⟨job, -, hjob⟩ := List.mem_filterMap.1 h
  rw [Job.ignoredNotice?] at hjob
  split at hjob
  · exact absurd hjob (by simp)
  · exact ⟨job, (Option.some.inj hjob).symm⟩

lemma exists_of_mem_refusalNotice {jobs : List Job} {notice : Notice}
    (h : notice ∈ jobs.filterMap (refusalNotice? shape criteria)) :
    ∃ inner, notice = .criteria inner := by
  obtain ⟨job, -, hjob⟩ := List.mem_filterMap.1 h
  rw [refusalNotice?] at hjob
  split at hjob
  · obtain ⟨inner, -, rfl⟩ := Option.map_eq_some_iff.1 hjob
    exact ⟨inner, rfl⟩
  · exact absurd hjob (by simp)

lemma filter_isIgnoredJob_notices_pendingOf (jobs : List Job) :
    (pendingOf shape criteria jobs).notices.filter Notice.isIgnoredJob =
      jobs.filterMap Job.ignoredNotice? := by
  rw [notices_pendingOf, List.filter_append, List.filter_append, List.filter_eq_self.2,
    List.filter_eq_nil_iff.2, List.filter_eq_nil_iff.2, List.append_nil, List.append_nil]
  · intro notice hnotice
    obtain ⟨inner, rfl⟩ := exists_of_mem_refusalNotice hnotice
    simp [Notice.isIgnoredJob]
  · intro notice hnotice
    obtain ⟨inner, -, rfl⟩ := List.mem_map.1 hnotice
    simp [Notice.isIgnoredJob]
  · intro notice hnotice
    obtain ⟨job, rfl⟩ := exists_of_mem_ignoredNotice hnotice
    rfl

lemma filter_info_notices_pendingOf (jobs : List Job) :
    (pendingOf shape criteria jobs).notices.filter (fun notice => notice.level = .info) =
      jobs.filterMap (refusalNotice? shape criteria) := by
  rw [notices_pendingOf, List.filter_append, List.filter_append, List.filter_eq_nil_iff.2,
    List.filter_eq_nil_iff.2, List.filter_eq_self.2, List.nil_append, List.nil_append]
  · intro notice hnotice
    obtain ⟨inner, rfl⟩ := exists_of_mem_refusalNotice hnotice
    simp [Notice.level]
  · intro notice hnotice
    obtain ⟨inner, -, rfl⟩ := List.mem_map.1 hnotice
    cases inner <;> simp [Notice.level, Requirement.Notice.level]
  · intro notice hnotice
    obtain ⟨job, rfl⟩ := exists_of_mem_ignoredNotice hnotice
    simp [Notice.level]

/-! ### From a source to the jobs that count -/

/-- What is noticed on the way from a source to the jobs that count. -/
lemma notices_pendingJobs (shape : NodeShape) (criteria : Criteria) (world : World)
    (source : Source) :
    (pendingJobs world source shape criteria).notices = (source.jobs world).notices ++
      match (source.jobs world).value with
      | .error _ => []
      | .ok jobs => (pendingOf shape criteria jobs).notices := by
  rw [pendingJobs, Reported.andThenOk]
  cases (source.jobs world).value with
  | error failure => exact (List.append_nil _).symm
  | ok jobs => rfl

/-- **No job is lost unnoticed.**  Under the policy that leaves out bad rows, each of them is warned
of once, with its first fault, and the jobs and the warnings make up the rows.  Under the policy
that keeps defaults, each row is warned of once for each bad cell, in the order in which columns are
requested, and once more if it does not name its job; only then it is left out.  The policy that
refuses a table warns of nothing.

Of the jobs of a source, each that is not pending is noticed as ignored.  Then follows what the
passes have to say, and then one piece of information for each pending job that is refused, with the
first criterion that it violates.  So the jobs that are kept, those that are noticed as ignored and
those that are noticed as refused make up the snapshot.  A source that fails is not noticed any
further. -/
theorem losses_noticed :
    (∀ text : String,
      match (Table.filledLines text.toList).map Table.cells with
      | [] => ∀ policy, (Table.read policy text).notices = []
      | header :: rows =>
        if Column.id.header ∈ header then
          Table.warnings (Table.read .reject text) = [] ∧
          (∃ jobs, (Table.read .skipJob text).value = .ok jobs ∧
            List.Forall₂ (Table.IsJobOf header)
              (rows.filter fun row => ¬ Table.Bad header row) jobs ∧
            List.Forall₂ (Table.NoticesSkip header) (rows.filter fun row => Table.Bad header row)
              (Table.warnings (Table.read .skipJob text)) ∧
            jobs.length + (Table.warnings (Table.read .skipJob text)).length = rows.length) ∧
          (∃ jobs notices, (Table.read .default text).value = .ok jobs ∧
            List.Forall₂ (Table.IsJobOf header)
              (rows.filter fun row => Table.Named header row) jobs ∧
            List.Forall₂ (Table.NoticesRow header) rows notices ∧
            Table.warnings (Table.read .default text) = notices.flatten)
        else ∀ policy, (Table.read policy text).notices = []) ∧
    (∀ (world : World) (source : Source) (shape : NodeShape) (criteria : Criteria),
      match (source.jobs world).value with
      | .error failure =>
        (pendingJobs world source shape criteria).value = .error failure ∧
        (pendingJobs world source shape criteria).notices = (source.jobs world).notices
      | .ok jobs => ∃ kept ignored dropped,
        (pendingJobs world source shape criteria).value = .ok kept ∧
        (pendingJobs world source shape criteria).notices = (source.jobs world).notices ++
          (ignored ++ (Requirement.reconcile shape
            (jobs.filter (·.state.isPending))).notices.map .requirement ++ dropped) ∧
        List.Forall₂ (fun job notice => notice = .ignoredJob job.id job.state)
          (jobs.filter fun job => job.state ≠ .pending) ignored ∧
        List.Forall₂ (NoticesRefusal shape criteria) (refusedJobs shape criteria jobs) dropped ∧
        (pendingJobs world source shape criteria).notices.filter Notice.isIgnoredJob = ignored ∧
        (pendingJobs world source shape criteria).notices.filter (·.level = .info) = dropped ∧
        jobs.length = kept.length + ignored.length + dropped.length) := by
  refine ⟨fun text => ?_, fun world source shape criteria => ?_⟩
  · cases hgrid : (Table.filledLines text.toList).map Table.cells with
    | nil =>
      intro policy
      rw [Table.read, hgrid]
      rfl
    | cons header rows =>
      dsimp only
      split
      · rename_i hmem
        obtain ⟨i, hi⟩ : ∃ i, Table.lastIndex? Column.id.header header = some i := by
          rw [← Option.ne_none_iff_exists', ne_eq, Table.lastIndex?_eq_none_iff, not_not]
          exact hmem
        exact ⟨Table.warnings_reject hgrid hi, Table.warnings_skipJob hgrid hi,
          Table.warnings_default hgrid hi⟩
      · rename_i hmem
        intro policy
        rw [Table.read, hgrid, Table.readGrid, Table.lastIndex?_eq_none_iff.2 hmem]
  · have hvalue := value_pendingJobs shape criteria world source
    have hnotices := notices_pendingJobs shape criteria world source
    cases hjobs : (source.jobs world).value with
    | error failure =>
      rw [hjobs] at hvalue hnotices
      rw [List.append_nil] at hnotices
      exact ⟨hvalue, hnotices⟩
    | ok jobs =>
      rw [hjobs] at hvalue hnotices
      dsimp only at hnotices
      have hignored := forall₂_ignoredNotice jobs
      have hdropped := forall₂_refusalNotice shape criteria jobs
      refine ⟨_, _, _, hvalue, ?_, hignored, hdropped, ?_, ?_, ?_⟩
      · rw [hnotices, notices_pendingOf]
      · rw [hnotices, List.filter_append, Source.filter_isIgnoredJob_notices, List.nil_append,
          filter_isIgnoredJob_notices_pendingOf]
      · rw [hnotices, List.filter_append, Source.filter_info_notices, List.nil_append,
          filter_info_notices_pendingOf]
      · rw [← hignored.length_eq, ← hdropped.length_eq]
        exact length_candidates jobs

end NodeDemand
