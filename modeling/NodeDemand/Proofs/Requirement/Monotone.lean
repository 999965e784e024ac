/-
# Smaller requests and richer nodes

A job that asks for less does not need more nodes, and a job does not need more nodes if these are
richer: `Requirement.nodes_mono`.

Both hold under a condition only, since a rule is left out where no node has room for a chunk or a
task.  A job whose tasks do not fit on any node needs no nodes for them, so it may need fewer than
one that asks for less; and nodes that have just got room for its tasks may be needed in greater
number than poorer ones.  The conditions say that there is room.  Then each need is a rounded
quotient, which grows with its dividend and shrinks as its divisor grows (`ceilDiv_le_ceilDiv`).
-/
import NodeDemand.Proofs.Requirement.Needs
import Mathlib.Data.List.Forall2

namespace NodeDemand

namespace Job

/-! ### Smaller requests -/

/-- The job `a` asks for as large chunks as the job `b`, and otherwise for no more.  If there are
graphics processors, a node has room for a task of `b`. -/
structure AsksNoMore (shape : NodeShape) (a b : Job) : Prop where
  /-- The chunks are equal. -/
  chunk_eq : a.cpusMinPerNode = b.cpusMinPerNode
  /-- No more nodes are reported. -/
  nodes_le : a.nodes.toNat ≤ b.nodes.toNat
  /-- No more CPUs are asked for. -/
  cpus_le : a.cpusTotal.toNat ≤ b.cpusTotal.toNat
  /-- There are no more tasks. -/
  tasks_le : a.tasks.toNat ≤ b.tasks.toNat
  /-- No more graphics processors are asked for in all. -/
  gpusPerJob_le : (a.gpusPerJob?.getD 0).toNat ≤ (b.gpusPerJob?.getD 0).toNat
  /-- No more graphics processors are asked for with each task. -/
  gpusPerTask_le : (a.gpusPerTask?.getD 0).toNat ≤ (b.gpusPerTask?.getD 0).toNat
  /-- A node has room for a task of the greater request. -/
  task_fits : 0 < shape.gpus.toInt → (b.gpusPerTask?.getD 0).toNat ≤ shape.gpus.toInt

namespace AsksNoMore

variable {shape : NodeShape} {a b : Job}

lemma slotNeed_le (h : AsksNoMore shape a b) (slots : ℕ) : a.slotNeed slots ≤ b.slotNeed slots := by
  unfold slotNeed
  rw [h.chunk_eq]
  exact ceilDiv_le_ceilDiv h.cpus_le le_rfl (Nat.eq_zero_or_pos _)

lemma gpuNeed_le (h : AsksNoMore shape a b) (gpus : ℕ) : a.gpuNeed gpus ≤ b.gpuNeed gpus :=
  ceilDiv_le_ceilDiv h.gpusPerJob_le le_rfl (Nat.eq_zero_or_pos gpus)

lemma taskNeed_le (h : AsksNoMore shape a b) :
    a.taskNeed shape.gpuNat ≤ b.taskNeed shape.gpuNat := by
  unfold taskNeed
  have hle := h.gpusPerTask_le
  rcases Nat.eq_zero_or_pos (a.gpusPerTask?.getD 0).toNat with hzero | hpos
  -- tasks without graphics processors need no nodes
  · rw [hzero, Nat.div_zero, ceilDiv_zero]
    exact Nat.zero_le _
  · refine ceilDiv_le_ceilDiv h.tasks_le (Nat.div_le_div_left hle hpos) ?_
    rcases Nat.eq_zero_or_pos shape.gpuNat with hnone | hsome
    · rw [hnone, Nat.zero_div]
      exact Or.inl rfl
    · have hgpus := NodeShape.toInt_gpus_eq hsome
      have hfits := h.task_fits (by omega)
      exact Or.inr (Nat.div_pos (by omega) (hpos.trans_le hle))

/-- A job that asks for no more needs no more nodes. -/
lemma nodes_reconcile_le (h : AsksNoMore shape a b) :
    (a.reconcile shape).nodes ≤ (b.reconcile shape).nodes := by
  have hnodes := h.nodes_le
  have hslots := h.slotNeed_le shape.slotNat
  have hgpus := h.gpuNeed_le shape.gpuNat
  have htasks := h.taskNeed_le
  rw [UInt64.le_iff_toNat_le, toNat_nodes_reconcile, toNat_nodes_reconcile]
  omega

end AsksNoMore

/-! ### Richer nodes -/

/-- The nodes of the shape `rich` have no fewer slots and graphics processors than those of the
shape `poor`, which have some, and room for a chunk and for a task of the job. -/
structure Enriched (job : Job) (poor rich : NodeShape) : Prop where
  /-- There is room for a chunk, and for no less on the richer nodes. -/
  slots_le : ∃ few many, poor.slots = some few ∧ rich.slots = some many ∧
    job.cpusMinPerNode.toNat ≤ few.toNat ∧ few.toNat ≤ many.toNat
  /-- There are graphics processors. -/
  gpus_pos : 0 < poor.gpus.toInt
  /-- The richer nodes have no fewer of them. -/
  gpus_le : poor.gpus.toInt ≤ rich.gpus.toInt
  /-- There is room for a task. -/
  task_fits : (job.gpusPerTask?.getD 0).toNat ≤ poor.gpus.toInt

namespace Enriched

variable {poor rich : NodeShape} {job : Job}

lemma slotNeed_le (h : job.Enriched poor rich) :
    job.slotNeed rich.slotNat ≤ job.slotNeed poor.slotNat := by
  obtain ⟨few, many, hpoor, hrich, hchunk, hle⟩ := h.slots_le
  have hfew : poor.slotNat = few.toNat := by rw [NodeShape.slotNat, hpoor, Option.getD_some]
  have hmany : rich.slotNat = many.toNat := by rw [NodeShape.slotNat, hrich, Option.getD_some]
  rw [hfew, hmany]
  refine ceilDiv_le_ceilDiv le_rfl (Nat.mul_le_mul_left _ (Nat.div_le_div_right hle)) ?_
  rcases Nat.eq_zero_or_pos job.cpusMinPerNode.toNat with hzero | hpos
  · rw [hzero, Nat.zero_mul]
    exact Or.inl rfl
  · exact Or.inr (Nat.mul_pos hpos (Nat.div_pos hchunk hpos))

lemma gpuNat_pos (h : job.Enriched poor rich) : 0 < poor.gpuNat := by
  have hpos := h.gpus_pos
  unfold NodeShape.gpuNat
  omega

lemma gpuNat_le (h : job.Enriched poor rich) : poor.gpuNat ≤ rich.gpuNat := by
  have hle := h.gpus_le
  unfold NodeShape.gpuNat
  omega

lemma gpuNeed_le (h : job.Enriched poor rich) :
    job.gpuNeed rich.gpuNat ≤ job.gpuNeed poor.gpuNat :=
  ceilDiv_le_ceilDiv le_rfl h.gpuNat_le (Or.inr h.gpuNat_pos)

lemma taskNeed_le (h : job.Enriched poor rich) :
    job.taskNeed rich.gpuNat ≤ job.taskNeed poor.gpuNat := by
  have hfits := h.task_fits
  have hgpus := NodeShape.toInt_gpus_eq h.gpuNat_pos
  refine ceilDiv_le_ceilDiv le_rfl (Nat.div_le_div_right h.gpuNat_le) ?_
  rcases Nat.eq_zero_or_pos (job.gpusPerTask?.getD 0).toNat with hzero | hpos
  · rw [hzero, Nat.div_zero]
    exact Or.inl rfl
  · exact Or.inr (Nat.div_pos (by omega) hpos)

/-- A job needs no more nodes if these are richer. -/
lemma nodes_reconcile_le (h : job.Enriched poor rich) :
    (job.reconcile rich).nodes ≤ (job.reconcile poor).nodes := by
  have hslots := h.slotNeed_le
  have hgpus := h.gpuNeed_le
  have htasks := h.taskNeed_le
  rw [UInt64.le_iff_toNat_le, toNat_nodes_reconcile, toNat_nodes_reconcile]
  omega

end Enriched

end Job

/-- **Node counts are monotone.**  Jobs that ask for no more than others are given no more nodes
than these, and jobs are given no more nodes of a richer shape, provided that there is room for
their chunks and tasks at all. -/
theorem Requirement.nodes_mono :
    (∀ (shape : NodeShape) (jobs jobs' : List Job),
      List.Forall₂ (Job.AsksNoMore shape) jobs jobs' →
        List.Forall₂ (fun a b : Job => a.nodes ≤ b.nodes)
          (Requirement.reconcile shape jobs).value (Requirement.reconcile shape jobs').value) ∧
    (∀ (poor rich : NodeShape) (jobs : List Job),
      (∀ job ∈ jobs, job.Enriched poor rich) →
        List.Forall₂ (fun a b : Job => a.nodes ≤ b.nodes)
          (Requirement.reconcile rich jobs).value (Requirement.reconcile poor jobs).value) := by
  constructor
  · intro shape jobs jobs' h
    rw [Requirement.value_reconcile, Requirement.value_reconcile, List.forall₂_map_left_iff,
      List.forall₂_map_right_iff]
    exact h.imp fun a b hab => hab.nodes_reconcile_le
  · intro poor rich jobs h
    rw [Requirement.value_reconcile, Requirement.value_reconcile, List.forall₂_map_left_iff,
      List.forall₂_map_right_iff, List.forall₂_same]
    exact fun job hjob => (h job hjob).nodes_reconcile_le

/-- Three tasks with a graphics processor each, in chunks of three CPUs. -/
def modestJob : Job where
  id := "7"
  nodes := 1
  cpusTotal := 8
  tasks := 3
  cpusMinPerNode := 3
  tresPerTask := Tres.ofList [(Tres.gpu, 1)]

/-- Five tasks with two graphics processors each, in chunks of three CPUs. -/
def greedyJob : Job where
  id := "8"
  nodes := 1
  cpusTotal := 20
  tasks := 5
  cpusMinPerNode := 3
  tresPerJob := Tres.ofList [(Tres.gpu, 9)]
  tresPerTask := Tres.ofList [(Tres.gpu, 2)]

/-- On nodes with eight slots and four graphics processors the greater request needs four nodes and
the smaller one two, and two nodes of twice that size are enough for the greater one. -/
theorem Requirement.nodes_mono_greedyJob :
    List.Forall₂ (Job.AsksNoMore ⟨some 8, 4⟩) [modestJob] [greedyJob] ∧
    (∀ job ∈ [greedyJob], job.Enriched ⟨some 8, 4⟩ ⟨some 16, 8⟩) ∧
    (Requirement.reconcile ⟨some 8, 4⟩ [modestJob]).value.map Job.nodes = [2] ∧
    (Requirement.reconcile ⟨some 8, 4⟩ [greedyJob]).value.map Job.nodes = [4] ∧
    (Requirement.reconcile ⟨some 16, 8⟩ [greedyJob]).value.map Job.nodes = [2] ∧
    List.Forall₂ (fun a b : Job => a.nodes ≤ b.nodes)
      (Requirement.reconcile ⟨some 8, 4⟩ [modestJob]).value
      (Requirement.reconcile ⟨some 8, 4⟩ [greedyJob]).value ∧
    List.Forall₂ (fun a b : Job => a.nodes ≤ b.nodes)
      (Requirement.reconcile ⟨some 16, 8⟩ [greedyJob]).value
      (Requirement.reconcile ⟨some 8, 4⟩ [greedyJob]).value := by
  have hasks : List.Forall₂ (Job.AsksNoMore ⟨some 8, 4⟩) [modestJob] [greedyJob] :=
    .cons ⟨by decide, by decide, by decide, by decide, by decide, by decide, by decide⟩ .nil
  have hricher : ∀ job ∈ [greedyJob], job.Enriched ⟨some 8, 4⟩ ⟨some 16, 8⟩ := by
    intro job hjob
    rw [List.mem_singleton.1 hjob]
    exact ⟨⟨8, 16, rfl, rfl, by decide, by decide⟩, by decide, by decide, by decide⟩
  exact ⟨hasks, hricher, by decide, by decide, by decide,
    Requirement.nodes_mono.1 ⟨some 8, 4⟩ _ _ hasks, Requirement.nodes_mono.2 _ _ _ hricher⟩

end NodeDemand
