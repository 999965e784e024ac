/-
# Looser criteria and early selection

Selecting jobs is safe at two places.  Jobs may be selected already before their requirements are
computed, in addition to after it, because a job that is refused as reported is refused with the
nodes that it needs (`accepts_of_raised`).  And looser criteria keep all jobs that stricter ones
keep (`Criteria.Looser.accepts`).  `select_loosening` says what follows for the lists of jobs
and for the total of their nodes.

Criteria are compared criterion by criterion.  A list of reasons that is empty accepts every
reason, so it is not the containment of lists that makes criteria looser.
-/
import NodeDemand.Proofs.Pending
import NodeDemand.Proofs.Requirement.TotalNodes

namespace NodeDemand

namespace Criteria

variable {criteria strict loose : Criteria}

/-- One criterion after the other, the second criteria refuse no more than the first. -/
structure Looser (strict loose : Criteria) : Prop where
  slots : ∀ most, loose.maxSlots = some most →
    ∃ least, strict.maxSlots = some least ∧ least.toNat ≤ most.toNat
  nodes : ∀ most, loose.maxNodes = some most →
    ∃ least, strict.maxNodes = some least ∧ least.toNat ≤ most.toNat
  /-- A list of reasons that is not empty is looser than a part of it that is not empty either. -/
  reasons : ∀ many, loose.reasons = some many → many ≠ [] →
    ∃ few, strict.reasons = some few ∧ few ≠ [] ∧ ∀ reason ∈ few, reason ∈ many

/-- Looser criteria accept every job that stricter ones accept. -/
lemma Looser.accepts (h : Looser strict loose) {job : Job} (haccepts : strict.accepts job = true) :
    loose.accepts job = true := by
  obtain ⟨hslots, hnodes, hreason⟩ := accepts_iff.1 haccepts
  refine accepts_iff.2 ⟨?_, ?_, ?_⟩
  · intro most hmost
    obtain ⟨least, hleast, hle⟩ := h.slots most hmost
    exact (hslots least hleast).trans hle
  · intro most hmost
    obtain ⟨least, hleast, hle⟩ := h.nodes most hmost
    exact (hnodes least hleast).trans hle
  · intro many hmany hne
    obtain ⟨few, hfew, hfew_ne, hsubset⟩ := h.reasons many hmany hne
    exact hsubset _ (hreason few hfew hfew_ne)

/-- A job that is accepted with more nodes is accepted as it was before. -/
lemma accepts_of_raised {before after : Job} (h : Job.Raised before after)
    (haccepts : criteria.accepts after = true) : criteria.accepts before = true := by
  obtain ⟨hslots, hnodes, hreason⟩ := accepts_iff.1 haccepts
  rw [h.eq_with] at hslots hreason
  refine accepts_iff.2 ⟨hslots, ?_, hreason⟩
  exact fun most hmost => h.nodes_le.trans (hnodes most hmost)

end Criteria

/-- A filter that is passed after a map may be passed before it as well, if what passes after
passes before. -/
lemma filter_map_filter {α : Type} {p : α → Bool} {f : α → α} (h : ∀ a, p (f a) = true → p a = true)
    (xs : List α) : ((xs.filter p).map f).filter p = (xs.map f).filter p := by
  rw [List.filter_map, List.filter_map, List.filter_filter]
  congr 1
  refine List.filter_congr fun a _ => ?_
  cases hfa : p (f a) with
  | true => simp [hfa, h a hfa]
  | false => simp [hfa]

variable {shape : NodeShape}

lemma candidates_sublist {strict loose : Criteria} (h : strict.Looser loose) (jobs : List Job) :
    (candidates shape strict jobs).Sublist (candidates shape loose jobs) := by
  refine List.Sublist.map _ (List.monotone_filter_right jobs fun job hjob => ?_)
  simp only [decide_eq_true_eq] at hjob ⊢
  exact ⟨hjob.1, h.accepts hjob.2⟩

/-- **Selecting early and selecting by looser criteria are safe.**  A job that is refused as it is
reported is refused with the nodes that it needs, so selecting before the computation as well as
after it gives what selecting after it gives.  And of two criteria the looser ones keep, in order,
all jobs of a source that the stricter ones keep, and the total of their nodes is no smaller. -/
theorem select_loosening (shape : NodeShape) (criteria : Criteria) :
    (∀ job, criteria.accepts job = false →
      ∀ after ∈ (Requirement.reconcile shape [job]).value, criteria.accepts after = false) ∧
    (∀ jobs,
      (criteria.select (Requirement.reconcile shape (criteria.select jobs).value).value).value =
        (criteria.select (Requirement.reconcile shape jobs).value).value) ∧
    (∀ loose, criteria.Looser loose → ∀ (world : World) (source : Source),
      match (source.jobs world).value with
      | .error failure =>
        (pendingJobs world source shape criteria).value = .error failure ∧
          (pendingJobs world source shape loose).value = .error failure
      | .ok _ => ∃ few many,
        (pendingJobs world source shape criteria).value = .ok few ∧
          (pendingJobs world source shape loose).value = .ok many ∧ few.Sublist many ∧
            (Requirement.totalNodes few).toNat ≤ (Requirement.totalNodes many).toNat) := by
  have hkeep : ∀ job : Job, criteria.accepts (job.reconcile shape) = true →
      criteria.accepts job = true :=
    fun job => Criteria.accepts_of_raised (Job.raised_reconcile shape job)
  refine ⟨?_, ?_, ?_⟩
  · intro job hjob after hafter
    rw [Requirement.value_reconcile, List.map_singleton, List.mem_singleton] at hafter
    rw [hafter, Bool.eq_false_iff]
    intro haccepts
    rw [hkeep job haccepts] at hjob
    exact absurd hjob (by simp)
  · intro jobs
    simp only [Criteria.value_select, Requirement.value_reconcile]
    exact filter_map_filter hkeep jobs
  · intro loose h world source
    simp only [value_pendingJobs]
    cases (source.jobs world).value with
    | error failure => exact ⟨rfl, rfl⟩
    | ok jobs =>
      have hsublist : (candidates shape criteria jobs).Sublist (candidates shape loose jobs) :=
        candidates_sublist h jobs
      exact ⟨_, _, rfl, rfl, hsublist, Requirement.totalNodes_le_of_sublist hsublist⟩

/-- Criteria that admit five nodes and one reason. -/
def oneReason : Criteria where
  maxNodes := some 5
  reasons := some ["Priority"]

/-- Criteria that admit eight nodes and, because no reason is listed, every reason. -/
def everyReason : Criteria where
  maxNodes := some 8
  reasons := some []

/-- A world that answers nothing. -/
def mutedWorld : World where
  file _ := .error .unsupported
  run _ := .error .unsupported

/-- A job that needs five nodes for its CPUs, and one that is pending for another reason. -/
def waitingJobs : Source := .snapshot
  [{ id := "91", nodes := 1, cpusTotal := 15, cpusMinPerNode := 3, pendingReason := "Priority" },
    { id := "92", nodes := 2, pendingReason := "Dependency" }]

/-- The stricter criteria keep one of the jobs, and the looser ones keep both. -/
theorem select_loosening_everyReason :
    oneReason.Looser everyReason ∧
    (pendingJobs mutedWorld waitingJobs ⟨some 4, 0⟩ oneReason).value.map (·.map Job.id) =
      .ok ["91"] ∧
    (pendingJobs mutedWorld waitingJobs ⟨some 4, 0⟩ everyReason).value.map (·.map Job.id) =
      .ok ["91", "92"] ∧
    ∃ few many,
      (pendingJobs mutedWorld waitingJobs ⟨some 4, 0⟩ oneReason).value = .ok few ∧
        (pendingJobs mutedWorld waitingJobs ⟨some 4, 0⟩ everyReason).value = .ok many ∧
          few.Sublist many ∧
            (Requirement.totalNodes few).toNat ≤ (Requirement.totalNodes many).toNat := by
  have hlooser : oneReason.Looser everyReason := by
    refine ⟨?_, ?_, ?_⟩
    · simp [everyReason]
    · simp [everyReason, oneReason]
    · simp [everyReason]
  refine ⟨hlooser, by decide, by decide, ?_⟩
  exact (select_loosening ⟨some 4, 0⟩ oneReason).2.2 everyReason hlooser mutedWorld waitingJobs

end NodeDemand
