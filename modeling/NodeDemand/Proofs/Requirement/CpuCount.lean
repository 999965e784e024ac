/-
# CPU counts that follow the node counts

A job that needs more nodes for its graphics processors than for its CPUs asks for its least CPU
count on every one of them.  `Requirement.reconcile_cpus` says when that changes its CPU count and
how far, and that the nodes still hold all CPUs of the job in whole chunks afterwards.

Both rules for graphics processors raise the node count, one after the other.  This is one raise to
the greater of their needs (`raiseNodes_raiseNodes`), because a product that stops at the greatest
count still grows with the node count.  What fits on the nodes is the slot need of a job that the
passes have settled.
-/
import NodeDemand.Proofs.Requirement.FixedPoint
import Mathlib.Data.List.Forall2

namespace NodeDemand

namespace Job

/-- The nodes that a job needs without regard to graphics processors. -/
def nodesForCpus (shape : NodeShape) (job : Job) : ℕ :=
  max (max 1 job.nodes.toNat) (job.slotNeed shape.slotNat)

/-- The job `after` has the CPU count of the job `before`, unless it has more nodes than `before`
needs for its CPUs; then it has its least CPU count on every node, as far as that is a count. -/
structure CpusFollow (shape : NodeShape) (before after : Job) : Prop where
  /-- Nothing changes but the node count and the CPU count. -/
  eq_with : after = { before with nodes := after.nodes, cpusTotal := after.cpusTotal }
  /-- The CPUs have all the nodes that they need. -/
  least_le : before.nodesForCpus shape ≤ after.nodes.toNat
  /-- Without further nodes the CPU count stays. -/
  kept : after.nodes.toNat = before.nodesForCpus shape → after.cpusTotal = before.cpusTotal
  /-- With further nodes the CPU count is raised to the least CPU count on every node. -/
  raised : before.nodesForCpus shape < after.nodes.toNat →
    after.cpusTotal.toNat = max before.cpusTotal.toNat
      (min (after.nodes.toNat * before.cpusMinPerNode.toNat) (UInt64.size - 1))
  /-- The nodes hold the CPUs in whole chunks of the least CPU count, if a node holds a chunk. -/
  feasible : ∀ slots, shape.slots = some slots → 0 < before.cpusMinPerNode.toNat →
    before.cpusMinPerNode.toNat ≤ slots.toNat →
      after.cpusTotal.toNat ≤
        after.nodes.toNat * (slots.toNat - slots.toNat % before.cpusMinPerNode.toNat)

variable (shape : NodeShape) (job : Job)

lemma toNat_nodes_requireShapeSlots_withSomeNode :
    (job.withSomeNode.requireShapeSlots shape).nodes.toNat = job.nodesForCpus shape := by
  rw [toNat_nodes_requireShapeSlots, toNat_nodes_withSomeNode, slotNeed_withSomeNode, nodesForCpus]

/-- All that happens after the slot pass is one raise of the node count. -/
lemma exists_reconcile_eq_raiseNodes :
    ∃ least, job.reconcile shape =
      (job.withSomeNode.requireShapeSlots shape).raiseNodes least := by
  rw [reconcile, requireShapeGpus_eq]
  exact ⟨_, rfl⟩

lemma feasible_reconcile (slots : UInt64) (hslots : shape.slots = some slots)
    (hm : 0 < job.cpusMinPerNode.toNat) (hle : job.cpusMinPerNode.toNat ≤ slots.toNat) :
    (job.reconcile shape).cpusTotal.toNat ≤ (job.reconcile shape).nodes.toNat *
      (slots.toNat - slots.toNat % job.cpusMinPerNode.toNat) := by
  have hmin := (raised_reconcile shape job).cpusMinPerNode_eq
  have hsettled := (settled_reconcile shape job).slots
  have hroom : 0 < job.cpusMinPerNode.toNat * (slots.toNat / job.cpusMinPerNode.toNat) :=
    Nat.mul_pos hm (Nat.div_pos hle hm)
  rw [slotNeed, hmin, NodeShape.slotNat, hslots, Option.getD_some,
    ceilDiv_le_iff_le_mul hroom] at hsettled
  have hchunks : slots.toNat - slots.toNat % job.cpusMinPerNode.toNat =
      job.cpusMinPerNode.toNat * (slots.toNat / job.cpusMinPerNode.toNat) := by
    have hdiv := Nat.div_add_mod slots.toNat job.cpusMinPerNode.toNat
    omega
  rwa [hchunks, Nat.mul_comm]

lemma cpusFollow_reconcile : CpusFollow shape job (job.reconcile shape) := by
  have hraised := (raised_withSomeNode job).trans (raised_requireShapeSlots shape _)
  have hnodes := toNat_nodes_requireShapeSlots_withSomeNode shape job
  have hcpus : (job.withSomeNode.requireShapeSlots shape).cpusTotal = job.cpusTotal := by
    rw [cpusTotal_requireShapeSlots, cpusTotal_withSomeNode]
  obtain ⟨least, hleast⟩ := exists_reconcile_eq_raiseNodes shape job
  have hfinal := toNat_nodes_raiseNodes least (job.withSomeNode.requireShapeSlots shape)
  rw [← hleast, hnodes] at hfinal
  refine ⟨(raised_reconcile shape job).eq_with, ?_, ?_, ?_, feasible_reconcile shape job⟩
  · omega
  · intro heq
    rw [hleast, raiseNodes_eq_self (by omega), hcpus]
  · intro hlt
    have htotal :=
      @toNat_cpusTotal_raiseNodes least (job.withSomeNode.requireShapeSlots shape) (by omega)
    rw [← hleast, hcpus, hraised.cpusMinPerNode_eq] at htotal
    have hlast : (job.reconcile shape).nodes.toNat = least.toNat := by omega
    rw [htotal, hlast]

end Job

/-- **CPU counts follow the node counts.**  The passes change nothing but node counts and CPU
counts.  A job keeps its CPU count if it ends with the nodes that the slot pass left it; if it ends
with more of them, its CPU count is raised, if need be, to its least CPU count on every node, as
far as that is a count.  If a node has room for a chunk of the least CPU count at all, the nodes
hold the CPU count in whole chunks. -/
theorem Requirement.reconcile_cpus (shape : NodeShape) (jobs : List Job) :
    (Requirement.requireShapeSlots shape (jobs.map Job.withSomeNode)).value.map
        (fun job => job.nodes.toNat) = jobs.map (Job.nodesForCpus shape) ∧
      List.Forall₂ (Job.CpusFollow shape) jobs (Requirement.reconcile shape jobs).value := by
  constructor
  · rw [Requirement.value_requireShapeSlots, List.map_map, List.map_map]
    exact List.map_congr_left fun job _ => Job.toNat_nodes_requireShapeSlots_withSomeNode shape job
  · rw [Requirement.value_reconcile, List.forall₂_map_right_iff, List.forall₂_same]
    exact fun job _ => Job.cpusFollow_reconcile shape job

end NodeDemand
