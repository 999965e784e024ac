/-
# Why a job is refused

A refusal names the first criterion that speaks against a job, in the order: CPUs on a node, nodes,
pending reason (`refusal?_eq_some_iff`).  A selection notices every job that it leaves out, also
where it passes the list on as it is: then no job is left out (`notices_select`).
-/
import NodeDemand.Proofs.Candidates

namespace NodeDemand.Criteria

variable {criteria : Criteria} {job : Job} {refusal : Refusal}

/-- The refusal names the first criterion that the job violates. -/
inductive FirstViolated (criteria : Criteria) (job : Job) : Refusal → Prop
  | slots {most : UInt64} (hset : criteria.maxSlots = some most)
      (hmore : most.toNat < job.cpusMinPerNode.toNat) :
      FirstViolated criteria job (.slots job.cpusMinPerNode most)
  | nodes {most : UInt64}
      (hslots : ∀ most, criteria.maxSlots = some most → job.cpusMinPerNode.toNat ≤ most.toNat)
      (hset : criteria.maxNodes = some most) (hmore : most.toNat < job.nodes.toNat) :
      FirstViolated criteria job (.nodes job.nodes most)
  | reason {reasons : List String}
      (hslots : ∀ most, criteria.maxSlots = some most → job.cpusMinPerNode.toNat ≤ most.toNat)
      (hnodes : ∀ most, criteria.maxNodes = some most → job.nodes.toNat ≤ most.toNat)
      (hset : criteria.reasons = some reasons) (hne : reasons ≠ [])
      (hother : job.pendingReason ∉ reasons) :
      FirstViolated criteria job (.reason job.pendingReason)

lemma slotRefusal?_eq_some_iff : criteria.slotRefusal? job = some refusal ↔
    ∃ most, criteria.maxSlots = some most ∧ most.toNat < job.cpusMinPerNode.toNat ∧
      refusal = .slots job.cpusMinPerNode most := by
  cases h : criteria.maxSlots with
  | none => simp [slotRefusal?, h]
  | some most => simp [slotRefusal?, h, UInt64.lt_iff_toNat_lt, @eq_comm _ refusal]

lemma nodeRefusal?_eq_some_iff : criteria.nodeRefusal? job = some refusal ↔
    ∃ most, criteria.maxNodes = some most ∧ most.toNat < job.nodes.toNat ∧
      refusal = .nodes job.nodes most := by
  cases h : criteria.maxNodes with
  | none => simp [nodeRefusal?, h]
  | some most => simp [nodeRefusal?, h, UInt64.lt_iff_toNat_lt, @eq_comm _ refusal]

lemma reasonRefusal?_eq_some_iff : criteria.reasonRefusal? job = some refusal ↔
    ∃ reasons, criteria.reasons = some reasons ∧ reasons ≠ [] ∧ job.pendingReason ∉ reasons ∧
      refusal = .reason job.pendingReason := by
  cases h : criteria.reasons with
  | none => simp [reasonRefusal?, h]
  | some reasons => simp [reasonRefusal?, h, and_assoc, @eq_comm _ refusal]

/-- A job is refused for the first criterion that it violates. -/
lemma refusal?_eq_some_iff :
    criteria.refusal? job = some refusal ↔ FirstViolated criteria job refusal := by
  rw [refusal?, Option.or_eq_some_iff, Option.or_eq_some_iff, slotRefusal?_eq_some_iff,
    nodeRefusal?_eq_some_iff, reasonRefusal?_eq_some_iff, slotRefusal?_eq_none_iff,
    nodeRefusal?_eq_none_iff]
  constructor
  · rintro (⟨most, hset, hmore, rfl⟩ | ⟨hslots, ⟨most, hset, hmore, rfl⟩ |
      ⟨hnodes, reasons, hset, hne, hother, rfl⟩⟩)
    · exact .slots hset hmore
    · exact .nodes hslots hset hmore
    · exact .reason hslots hnodes hset hne hother
  · intro h
    cases h with
    | slots hset hmore => exact Or.inl ⟨_, hset, hmore, rfl⟩
    | nodes hslots hset hmore => exact Or.inr ⟨hslots, Or.inl ⟨_, hset, hmore, rfl⟩⟩
    | reason hslots hnodes hset hne hother =>
      exact Or.inr ⟨hslots, Or.inr ⟨hnodes, _, hset, hne, hother, rfl⟩⟩

/-- An accepted job is passed over in silence. -/
lemma notice?_of_accepts (h : criteria.accepts job = true) : criteria.notice? job = none := by
  rw [accepts, Option.isNone_iff_eq_none] at h
  rw [notice?, h]
  rfl

/-- A job that is not accepted is noticed with the first criterion that it violates. -/
lemma notice?_of_not_accepts (h : criteria.accepts job = false) :
    ∃ refusal, criteria.notice? job = some ⟨job.id, refusal⟩ ∧
      FirstViolated criteria job refusal := by
  cases hrefusal : criteria.refusal? job with
  | none => exact absurd h (by simp [accepts, hrefusal])
  | some refusal =>
    exact ⟨refusal, by rw [notice?, hrefusal]; rfl, refusal?_eq_some_iff.1 hrefusal⟩

/-- A list that is passed on as it is has no job to be noticed. -/
lemma notices_select (criteria : Criteria) (jobs : List Job) :
    (criteria.select jobs).notices = jobs.filterMap criteria.notice? := by
  unfold select
  split
  · rename_i h
    exact (List.filterMap_eq_nil_iff.2 fun job _ =>
      notice?_of_accepts (accepts_of_isEmpty h job)).symm
  · rfl

end NodeDemand.Criteria
