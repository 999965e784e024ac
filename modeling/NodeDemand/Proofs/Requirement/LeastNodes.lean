/-
# The least node count that suffices

A node count suffices for a job when the job can be placed on so many nodes: its CPUs in chunks
that are not divided, its graphics processors, and its tasks, none of which is split.  A
requirement that no node could meet, such as a chunk that is larger than a node, does not count.

`Requirement.reconcile_isLeast` says that the passes give every job of a list the least node count
that suffices for it.  The proof compares each requirement with the need of the rule that stands
for it: `slotNeed_le_iff`, `gpuNeed_le_iff` and `taskNeed_le_iff`.
-/
import NodeDemand.Proofs.Requirement.Needs
import Mathlib.Algebra.Order.BigOperators.Group.List
import Mathlib.Data.List.Forall2
import Mathlib.Order.Interval.Set.Basic

namespace NodeDemand

/-- So many items can be spread over `n` nodes, none of which has room for more than `room`. -/
def Fits (items room n : ℕ) : Prop :=
  ∃ loads : List ℕ, loads.length = n ∧ loads.sum = items ∧ ∀ load ∈ loads, load ≤ room

/-- Items that are not divided fit exactly when all nodes together have room for them. -/
lemma fits_iff {items room n : ℕ} : Fits items room n ↔ items ≤ n * room := by
  constructor
  · rintro ⟨loads, rfl, rfl, hle⟩
    simpa using List.sum_le_card_nsmul loads room hle
  · intro h
    induction n generalizing items with
    | zero => exact ⟨[], rfl, by simp at h ⊢; omega, by simp⟩
    | succ n ih =>
      -- the first node takes as many items as it has room for
      have hrest : items - min items room ≤ n * room := by
        rw [Nat.succ_mul] at h
        omega
      obtain ⟨loads, hlength, hsum, hle⟩ := ih hrest
      refine ⟨min items room :: loads, by simp [hlength], ?_, ?_⟩
      · rw [List.sum_cons, hsum]
        omega
      · intro load hload
        rcases List.mem_cons.1 hload with rfl | hload
        · exact min_le_right _ _
        · exact hle load hload

namespace Job

/-- The node count `n` suffices for a job on nodes of a given shape. -/
structure Suffices (shape : NodeShape) (job : Job) (n : ℕ) : Prop where
  /-- A job needs a node. -/
  some_node : 1 ≤ n
  /-- The reported node count is a lower bound. -/
  reported : job.nodes.toNat ≤ n
  /-- The CPUs fit in chunks of the least CPU count, if a node has room for a chunk. -/
  chunks : ∀ slots, shape.slots = some slots →
    0 < job.cpusMinPerNode.toNat → job.cpusMinPerNode.toNat ≤ slots.toNat →
      Fits (job.cpusTotal.toNat ⌈/⌉ job.cpusMinPerNode.toNat)
        (slots.toNat / job.cpusMinPerNode.toNat) n
  /-- The nodes have the graphics processors that the job asks for in all. -/
  gpus : ∀ gpus : ℕ, shape.gpus.toInt = gpus → 0 < gpus →
    ∀ count, job.gpusPerJob? = some count → count.toNat ≤ n * gpus
  /-- The tasks fit with their graphics processors, if a node has room for a task. -/
  tasks : ∀ gpus : ℕ, shape.gpus.toInt = gpus → 0 < gpus →
    ∀ count, job.gpusPerTask? = some count → 0 < count.toNat → count.toNat ≤ gpus →
      job.tasks.toNat ≤ n * (gpus / count.toNat)

variable {shape : NodeShape} {job : Job} {n : ℕ}

/-! ### The needs of the rules -/

lemma slotNeed_le_iff :
    job.slotNeed shape.slotNat ≤ n ↔
      ∀ slots, shape.slots = some slots →
        0 < job.cpusMinPerNode.toNat → job.cpusMinPerNode.toNat ≤ slots.toNat →
          Fits (job.cpusTotal.toNat ⌈/⌉ job.cpusMinPerNode.toNat)
            (slots.toNat / job.cpusMinPerNode.toNat) n := by
  constructor
  · intro h slots hslots hm hle
    have hroom : 0 < slots.toNat / job.cpusMinPerNode.toNat := Nat.div_pos hle hm
    rw [NodeShape.slotNat, hslots, Option.getD_some, slotNeed,
      ceilDiv_le_iff_le_mul (Nat.mul_pos hm hroom)] at h
    rw [fits_iff, ceilDiv_le_iff_le_mul hm]
    calc job.cpusTotal.toNat
        ≤ job.cpusMinPerNode.toNat * (slots.toNat / job.cpusMinPerNode.toNat) * n := h
      _ = job.cpusMinPerNode.toNat * (n * (slots.toNat / job.cpusMinPerNode.toNat)) := by
        rw [Nat.mul_assoc, Nat.mul_comm n]
  · intro h
    -- without slots, and where no chunk fits on a node, the need is zero
    rcases hslots : shape.slots with _ | slots
    · rw [NodeShape.slotNat, hslots, Option.getD_none, slotNeed,
        show (0 : UInt64).toNat = 0 from rfl, Nat.zero_div, Nat.mul_zero, ceilDiv_zero]
      exact Nat.zero_le n
    · rw [NodeShape.slotNat, hslots, Option.getD_some]
      by_cases hfits : job.fitsSlots slots = true
      · obtain ⟨hm, hle⟩ := fitsSlots_iff.1 hfits
        have hroom : 0 < slots.toNat / job.cpusMinPerNode.toNat := Nat.div_pos hle hm
        have hchunks := h slots hslots hm hle
        rw [fits_iff, ceilDiv_le_iff_le_mul hm] at hchunks
        rw [slotNeed, ceilDiv_le_iff_le_mul (Nat.mul_pos hm hroom), Nat.mul_assoc,
          Nat.mul_comm _ n]
        exact hchunks
      · rw [slotNeed_eq_zero (Bool.eq_false_iff.2 hfits)]
        exact Nat.zero_le n

lemma gpuNeed_le_iff :
    job.gpuNeed shape.gpuNat ≤ n ↔
      ∀ gpus : ℕ, shape.gpus.toInt = gpus → 0 < gpus →
        ∀ count, job.gpusPerJob? = some count → count.toNat ≤ n * gpus := by
  constructor
  · intro h gpus hgpus hpos count hcount
    rw [NodeShape.gpuNat_eq hgpus, gpuNeed, hcount, Option.getD_some,
      ceilDiv_le_iff_le_mul hpos] at h
    rwa [Nat.mul_comm n gpus]
  · intro h
    rcases hcount : job.gpusPerJob? with _ | count
    · rw [gpuNeed, hcount, Option.getD_none, show (0 : UInt64).toNat = 0 from rfl, zero_ceilDiv]
      exact Nat.zero_le n
    · rcases Nat.eq_zero_or_pos shape.gpuNat with hzero | hpos
      · rw [hzero, gpuNeed, ceilDiv_zero]
        exact Nat.zero_le n
      · have hle := h shape.gpuNat (NodeShape.toInt_gpus_eq hpos) hpos count hcount
        rwa [gpuNeed, hcount, Option.getD_some, ceilDiv_le_iff_le_mul hpos, Nat.mul_comm]

lemma taskNeed_le_iff :
    job.taskNeed shape.gpuNat ≤ n ↔
      ∀ gpus : ℕ, shape.gpus.toInt = gpus → 0 < gpus →
        ∀ count, job.gpusPerTask? = some count → 0 < count.toNat → count.toNat ≤ gpus →
          job.tasks.toNat ≤ n * (gpus / count.toNat) := by
  constructor
  · intro h gpus hgpus _ count hcount hpos hle
    rw [NodeShape.gpuNat_eq hgpus, taskNeed, hcount, Option.getD_some,
      ceilDiv_le_iff_le_mul (Nat.div_pos hle hpos)] at h
    rwa [Nat.mul_comm n]
  · intro h
    -- a task that asks for nothing and one that no node has room for both divide by zero
    rcases Nat.eq_zero_or_pos (shape.gpuNat / (job.gpusPerTask?.getD 0).toNat) with hzero | hpos
    · rw [taskNeed, hzero, ceilDiv_zero]
      exact Nat.zero_le n
    · obtain ⟨hle, hcountpos⟩ := (Nat.div_pos_iff).1 hpos
      rcases hcount : job.gpusPerTask? with _ | count
      · rw [hcount] at hle
        exact absurd hle (by simp)
      · rw [hcount, Option.getD_some] at hpos hle hcountpos
        have hgpus : 0 < shape.gpuNat := hle.trans_le hcountpos
        have htasks := h shape.gpuNat (NodeShape.toInt_gpus_eq hgpus) hgpus count hcount hle hcountpos
        rwa [taskNeed, hcount, Option.getD_some, ceilDiv_le_iff_le_mul hpos, Nat.mul_comm]

/-- A node count suffices exactly when no rule asks for more. -/
lemma suffices_iff : job.Suffices shape n ↔ (job.reconcile shape).nodes.toNat ≤ n := by
  rw [toNat_nodes_reconcile, max_le_iff, max_le_iff, max_le_iff, max_le_iff, slotNeed_le_iff,
    gpuNeed_le_iff, taskNeed_le_iff]
  constructor
  · rintro ⟨hone, hreported, hchunks, hgpus, htasks⟩
    exact ⟨⟨⟨hone, hreported⟩, hchunks⟩, hgpus, htasks⟩
  · rintro ⟨⟨⟨hone, hreported⟩, hchunks⟩, hgpus, htasks⟩
    exact ⟨hone, hreported, hchunks, hgpus, htasks⟩

end Job

/-- **The passes compute the least node counts.**  They keep the jobs and their order, touch
nothing but node counts and CPU counts, and give every job the least number of nodes that suffices
for it as it was before. -/
theorem Requirement.reconcile_isLeast (shape : NodeShape) (jobs : List Job) :
    List.Forall₂
      (fun before after : Job =>
        after = { before with nodes := after.nodes, cpusTotal := after.cpusTotal } ∧
          IsLeast {n | before.Suffices shape n} after.nodes.toNat)
      jobs (Requirement.reconcile shape jobs).value := by
  rw [Requirement.value_reconcile, List.forall₂_map_right_iff, List.forall₂_same]
  intro job _
  refine ⟨(Job.raised_reconcile shape job).eq_with, ?_, ?_⟩
  · exact Job.suffices_iff.2 le_rfl
  · intro n hn
    exact Job.suffices_iff.1 hn

end NodeDemand
