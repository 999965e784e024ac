/-
# Which jobs of a snapshot are kept

A job is accepted exactly if it meets every criterion that is set (`accepts_iff`).  Selecting by
criteria is filtering, also where the list is passed on as it is because no criterion is set
(`value_select`).  The way from a snapshot to the jobs that count is therefore a filter, a
map and a filter (`value_pendingOf`).
-/
import NodeDemand.Pending
import NodeDemand.Proofs.Requirement.Needs

namespace NodeDemand

namespace Criteria

variable {criteria : Criteria}

/-- A job meets criteria if it meets each one that is set. -/
structure Meets (criteria : Criteria) (job : Job) : Prop where
  /-- A node can give the CPUs that the job needs on each node. -/
  slots : ∀ most, criteria.maxSlots = some most → job.cpusMinPerNode.toNat ≤ most.toNat
  /-- The cluster can give the nodes. -/
  nodes : ∀ most, criteria.maxNodes = some most → job.nodes.toNat ≤ most.toNat
  /-- The pending reason is among the accepted ones, if there are any. -/
  reason : ∀ reasons, criteria.reasons = some reasons → reasons ≠ [] →
    job.pendingReason ∈ reasons

lemma slotRefusal?_eq_none_iff {job : Job} : criteria.slotRefusal? job = none ↔
    ∀ most, criteria.maxSlots = some most → job.cpusMinPerNode.toNat ≤ most.toNat := by
  cases h : criteria.maxSlots with
  | none => simp [slotRefusal?, h]
  | some most => simp [slotRefusal?, h, UInt64.lt_iff_toNat_lt]

lemma nodeRefusal?_eq_none_iff {job : Job} : criteria.nodeRefusal? job = none ↔
    ∀ most, criteria.maxNodes = some most → job.nodes.toNat ≤ most.toNat := by
  cases h : criteria.maxNodes with
  | none => simp [nodeRefusal?, h]
  | some most => simp [nodeRefusal?, h, UInt64.lt_iff_toNat_lt]

lemma reasonRefusal?_eq_none_iff {job : Job} : criteria.reasonRefusal? job = none ↔
    ∀ reasons, criteria.reasons = some reasons → reasons ≠ [] → job.pendingReason ∈ reasons := by
  cases h : criteria.reasons with
  | none => simp [reasonRefusal?, h]
  | some reasons => simp [reasonRefusal?, h]

/-- A job is accepted exactly if no criterion that is set speaks against it. -/
lemma accepts_iff {job : Job} : criteria.accepts job = true ↔ criteria.Meets job := by
  rw [accepts, refusal?, Option.isNone_iff_eq_none, Option.or_eq_none_iff, Option.or_eq_none_iff,
    slotRefusal?_eq_none_iff, nodeRefusal?_eq_none_iff, reasonRefusal?_eq_none_iff]
  exact ⟨fun ⟨hslots, hnodes, hreason⟩ => ⟨hslots, hnodes, hreason⟩,
    fun ⟨hslots, hnodes, hreason⟩ => ⟨hslots, hnodes, hreason⟩⟩

/-- Criteria of which none is set accept every job. -/
lemma accepts_of_isEmpty (h : criteria.isEmpty = true) (job : Job) :
    criteria.accepts job = true := by
  simp only [isEmpty, Bool.and_eq_true, Option.isNone_iff_eq_none] at h
  obtain ⟨⟨hslots, hnodes⟩, hreasons⟩ := h
  refine accepts_iff.2 ⟨?_, ?_, ?_⟩
  · simp [hslots]
  · simp [hnodes]
  · intro reasons hset hne
    rw [hset, Option.all_some, List.isEmpty_iff] at hreasons
    exact absurd hreasons hne

lemma value_select (criteria : Criteria) (jobs : List Job) :
    (criteria.select jobs).value = jobs.filter criteria.accepts := by
  unfold select
  split
  · rename_i h
    exact (List.filter_eq_self.2 fun job _ => accepts_of_isEmpty h job).symm
  · rfl

end Criteria

variable (shape : NodeShape) (criteria : Criteria) (jobs : List Job)

lemma value_pendingOf :
    (pendingOf shape criteria jobs).value =
      (((jobs.filter (·.state.isPending)).map (Job.reconcile shape)).filter criteria.accepts) := by
  calc (pendingOf shape criteria jobs).value
      = (criteria.select
          (Requirement.reconcile shape (jobs.filter (·.state.isPending))).value).value := rfl
    _ = _ := by rw [Criteria.value_select, Requirement.value_reconcile]

/-- A snapshot at hand never fails. -/
lemma value_pendingJobs_snapshot (world : World) :
    (pendingJobs world (.snapshot jobs) shape criteria).value =
      .ok (pendingOf shape criteria jobs).value := rfl

end NodeDemand
