/-
# Raises in sequence

A raise of the node count may raise the CPU count as well, so each raise of a run can leave its
mark on two counts.  Nevertheless a run of raises does no more than the greatest of them does by
itself, in whatever order they come and however often each of them occurs
(`raiseAll_eq_raiseNodes`).  The reason is that a raise wipes out the marks of a lower one before it
(`raiseNodes_raiseNodes_of_le`): a product that stops at the greatest count still grows with the
node count.

The rules for graphics processors are raises, to counts that no raise changes.  So it does not
matter which rule comes first, and both together do what the one that asks for more nodes does
(`joined_raiseNodes`).  `Requirement.raises_join` says so for the pass over a list.
-/
import NodeDemand.Proofs.Requirement.Needs
import Mathlib.Data.List.Forall2
import Mathlib.Order.Bounds.Defs

namespace NodeDemand

namespace Job

variable {job : Job} {counts : List UInt64} {least greatest : UInt64}

/-! ### Runs of raises -/

/-- The job after raises of the node count, one after the other. -/
def raiseAll (counts : List UInt64) (job : Job) : Job :=
  counts.foldl (fun job least => job.raiseNodes least) job

lemma raiseAll_cons : job.raiseAll (least :: counts) = (job.raiseNodes least).raiseAll counts := rfl

/-- Two raises may change places. -/
lemma raiseNodes_comm (first second : UInt64) (job : Job) :
    (job.raiseNodes first).raiseNodes second = (job.raiseNodes second).raiseNodes first := by
  have hlarger : Count.larger first second = Count.larger second first := by
    rw [← UInt64.toNat_inj, Count.toNat_larger, Count.toNat_larger, max_comm]
  rw [raiseNodes_raiseNodes, raiseNodes_raiseNodes, hlarger]

/-- A raise leaves no mark of a lower one before it. -/
lemma raiseNodes_raiseNodes_of_le (h : least ≤ greatest) (job : Job) :
    (job.raiseNodes least).raiseNodes greatest = job.raiseNodes greatest := by
  rw [raiseNodes_raiseNodes, Count.larger, if_pos h]

/-- After a raise no lower ones do anything. -/
lemma raiseAll_raiseNodes (h : ∀ least ∈ counts, least ≤ greatest) (job : Job) :
    (job.raiseNodes greatest).raiseAll counts = job.raiseNodes greatest := by
  induction counts with
  | nil => rfl
  | cons least counts ih =>
    obtain ⟨hleast, hcounts⟩ := List.forall_mem_cons.1 h
    rw [raiseAll_cons, raiseNodes_comm, raiseNodes_raiseNodes_of_le hleast, ih hcounts]

/-- A run of raises is the greatest of them. -/
theorem raiseAll_eq_raiseNodes (hmem : greatest ∈ counts) (h : ∀ least ∈ counts, least ≤ greatest)
    (job : Job) : job.raiseAll counts = job.raiseNodes greatest := by
  induction counts generalizing job with
  | nil => exact absurd hmem List.not_mem_nil
  | cons least counts ih =>
    obtain ⟨hleast, hcounts⟩ := List.forall_mem_cons.1 h
    rw [raiseAll_cons]
    -- the greatest raise comes first, or it wipes out the first one later
    rcases List.mem_cons.1 hmem with rfl | hlater
    · exact raiseAll_raiseNodes hcounts job
    · rw [ih hlater hcounts, raiseNodes_raiseNodes_of_le hleast]

lemma exists_greatest (hne : counts ≠ []) :
    ∃ greatest ∈ counts, ∀ least ∈ counts, least ≤ greatest := by
  have hnats : counts.map UInt64.toNat ≠ [] := mt List.map_eq_nil_iff.1 hne
  obtain ⟨greatest, hmem, heq⟩ := List.mem_map.1 (List.max_mem hnats)
  refine ⟨greatest, hmem, fun least hleast => ?_⟩
  rw [UInt64.le_iff_toNat_le, heq]
  exact List.le_max_of_mem (List.mem_map_of_mem hleast)

/-! ### Two raises -/

/-- The job `both` is what two raises of the job `before` leave together, of which the one by itself
leaves the job `first` and the other one the job `second`. -/
structure Joined (before first second both : Job) : Prop where
  /-- The second raise does nothing after a first one that leaves as many nodes. -/
  eq_first : second.nodes ≤ first.nodes → both = first
  /-- The first raise leaves no mark before a second one that leaves as many nodes. -/
  eq_second : first.nodes ≤ second.nodes → both = second
  /-- The CPU count is the greater of the two that the raises leave. -/
  cpus : both.cpusTotal.toNat = max first.cpusTotal.toNat second.cpusTotal.toNat
  /-- Where no nodes are added nothing changes. -/
  kept : both.nodes = before.nodes → both = before
  /-- Where nodes are added the CPU count covers all of them, as far as that is a count. -/
  raised : before.nodes < both.nodes → both.cpusTotal.toNat =
    max before.cpusTotal.toNat
      (min (both.nodes.toNat * before.cpusMinPerNode.toNat) (UInt64.size - 1))

/-- A raise does nothing where another one has left as many nodes as it leaves by itself. -/
lemma raiseNodes_of_nodes_le {first second : UInt64}
    (h : (job.raiseNodes second).nodes ≤ (job.raiseNodes first).nodes) :
    (job.raiseNodes first).raiseNodes second = job.raiseNodes first := by
  rw [UInt64.le_iff_toNat_le, toNat_nodes_raiseNodes] at h
  exact raiseNodes_eq_self ((le_max_right _ _).trans h)

/-- Two raises leave what the one to more nodes leaves. -/
lemma joined_raiseNodes (first second : UInt64) (job : Job) :
    Joined job (job.raiseNodes first) (job.raiseNodes second)
      ((job.raiseNodes first).raiseNodes second) := by
  have hnodes := toNat_nodes_raiseNodes (Count.larger first second) job
  refine ⟨raiseNodes_of_nodes_le, ?_, ?_, ?_, ?_⟩
  · intro hle
    rw [raiseNodes_comm, raiseNodes_of_nodes_le hle]
  -- the CPU count of the raise that does nothing is not greater, as raises lower nothing
  · rcases UInt64.le_total (job.raiseNodes second).nodes (job.raiseNodes first).nodes with hle | hle
    · have hcpus := (raised_raiseNodes first (job.raiseNodes second)).cpus_le
      rw [raiseNodes_comm, raiseNodes_of_nodes_le hle] at hcpus
      rw [raiseNodes_of_nodes_le hle, max_eq_left hcpus]
    · have hcpus := (raised_raiseNodes second (job.raiseNodes first)).cpus_le
      rw [raiseNodes_comm, raiseNodes_of_nodes_le hle] at hcpus ⊢
      rw [max_eq_right hcpus]
  · intro heq
    rw [raiseNodes_raiseNodes] at heq ⊢
    rw [heq] at hnodes
    exact raiseNodes_eq_self (by omega)
  · intro hlt
    rw [raiseNodes_raiseNodes] at hlt ⊢
    rw [UInt64.lt_iff_toNat_lt] at hlt
    have hleast : job.nodes.toNat < (Count.larger first second).toNat := by omega
    rw [toNat_cpusTotal_raiseNodes hleast, hnodes, max_eq_right hleast.le]

/-! ### The rules for graphics processors -/

section Rules

variable {gpus : UInt64} (hgpus : 0 < gpus.toNat) (job : Job)
include hgpus

/-- The rule for the tasks may come first. -/
lemma requireGpusPerTask_requireGpusPerJob :
    (job.requireGpusPerTask gpus).requireGpusPerJob gpus = job.requireGpus gpus := by
  have hraised := raised_raiseNodes (UInt64.ofNat (job.taskNeed gpus.toNat)) job
  rw [requireGpus_eq hgpus, raiseNodes_comm, requireGpusPerTask_eq, requireGpusPerJob_eq hgpus,
    hraised.gpuNeed_eq]

lemma joined_requireGpus :
    Joined job (job.requireGpusPerJob gpus) (job.requireGpusPerTask gpus)
      (job.requireGpus gpus) := by
  rw [requireGpus_eq hgpus, requireGpusPerJob_eq hgpus, requireGpusPerTask_eq]
  exact joined_raiseNodes _ _ job

end Rules

end Job

/-- **Raises join.**  A run of raises leaves a job as one raise to the greatest of its counts does,
in every order of the same counts and however often each of them occurs.  The rules for graphics
processors may therefore be applied in either order, and the one that asks for more nodes decides
both counts of the job. -/
theorem Requirement.raises_join :
    (∀ (job : Job) (counts : List UInt64), counts ≠ [] →
      ∃ greatest, IsGreatest {least | least ∈ counts} greatest ∧
        ∀ raises : List UInt64, (∀ least, least ∈ raises ↔ least ∈ counts) →
          job.raiseAll raises = job.raiseNodes greatest) ∧
    ∀ (shape : NodeShape) (gpus : UInt64), shape.gpuCount? = some gpus → ∀ jobs : List Job,
      (Requirement.requireGpus shape jobs).value =
          jobs.map (fun job => (job.requireGpusPerTask gpus).requireGpusPerJob gpus) ∧
        List.Forall₂
          (fun before after : Job =>
            before.Joined (before.requireGpusPerJob gpus) (before.requireGpusPerTask gpus) after)
          jobs (Requirement.requireGpus shape jobs).value := by
  constructor
  · intro job counts hne
    obtain ⟨greatest, hmem, hle⟩ := Job.exists_greatest hne
    refine ⟨greatest, ⟨hmem, hle⟩, fun raises hsame => ?_⟩
    exact Job.raiseAll_eq_raiseNodes ((hsame greatest).2 hmem)
      (fun least hleast => hle least ((hsame least).1 hleast)) job
  · intro shape gpus hsome jobs
    have hgpus := NodeShape.toNat_pos_of_gpuCount? hsome
    have hvalue : (Requirement.requireGpus shape jobs).value =
        jobs.map (Job.requireGpus gpus) := by
      rw [Requirement.requireGpus, hsome]
    rw [hvalue, List.forall₂_map_right_iff, List.forall₂_same]
    refine ⟨List.map_congr_left fun job _ => ?_, fun job _ => Job.joined_requireGpus hgpus job⟩
    exact (Job.requireGpusPerTask_requireGpusPerJob hgpus job).symm

/-- A job whose least CPU count is half of all counts.  It asks for twelve graphics processors, and
for two of them for each of its three tasks. -/
def hugeChunkJob : Job where
  id := "31"
  nodes := 1
  tasks := 3
  cpusMinPerNode := 0x8000000000000000
  tresPerJob := Tres.ofList [(Tres.gpu, 12)]
  tresPerTask := Tres.ofList [(Tres.gpu, 2)]

/-- On nodes with four graphics processors the job needs three nodes for its graphics processors and
two for its tasks; the product of either with its least CPU count is beyond the counts. -/
theorem Requirement.raises_join_hugeChunkJob :
    hugeChunkJob.raiseAll [2, 5, 3, 5] = hugeChunkJob.raiseAll [3, 5, 2] ∧
      hugeChunkJob.raiseAll [2, 5, 3, 5] =
        { hugeChunkJob with nodes := 5, cpusTotal := Count.greatest } ∧
      (Requirement.requireGpus ⟨none, 4⟩ [hugeChunkJob]).value =
        [(hugeChunkJob.requireGpusPerTask 4).requireGpusPerJob 4] ∧
      (Requirement.requireGpus ⟨none, 4⟩ [hugeChunkJob]).value =
        [{ hugeChunkJob with nodes := 3, cpusTotal := Count.greatest }] := by
  obtain ⟨greatest, -, hraises⟩ := raises_join.1 hugeChunkJob [2, 3, 5] (by decide)
  have hsame : hugeChunkJob.raiseAll [2, 5, 3, 5] = hugeChunkJob.raiseAll [3, 5, 2] := by
    rw [hraises [2, 5, 3, 5] (by grind), hraises [3, 5, 2] (by grind)]
  exact ⟨hsame, by decide, (raises_join.2 ⟨none, 4⟩ 4 (by decide) [hugeChunkJob]).1, by decide⟩

end NodeDemand
