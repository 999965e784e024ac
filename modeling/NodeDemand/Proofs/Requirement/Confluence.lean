/-
# The order of the passes

The slot pass and the pass over graphics processors may be run in any order and any number of
times.  `Requirement.runPasses_confluent` says that the node counts are the same in the end,
and that the order shows in the CPU counts only.

A run over a list is a run over each of its jobs (`runPasses_eq_map`).  A pass that has run
rests until the other one has run too, after which the job is settled.  So a run leaves a job either
as the slot pass followed by the other one leaves it, or as the two in the reverse order do
(`runAll_of_slots_first`, `runAll_of_gpus_first`).  The reverse order computes the slot need from
a CPU count that may be greater, but not by more than a chunk for every node that the job has
by then, so it does not end with more nodes (`toNat_nodes_gpus_slots`).
-/
import NodeDemand.Proofs.Requirement.FixedPoint

namespace NodeDemand

namespace Job

variable {shape : NodeShape} {job : Job} {passes : List Pass}

/-! ### Passes that rest -/

/-- The slot pass rests until the pass over graphics processors has run. -/
lemma runAll_of_slots_run (hnode : 1 ≤ job.nodes.toNat)
    (hslots : job.slotNeed shape.slotNat ≤ job.nodes.toNat) (hgpus : Pass.gpus ∈ passes) :
    job.runAll shape passes = job.requireShapeGpus shape := by
  have hsettled := settled_requireShapeGpus hnode hslots
  have hrest := requireShapeSlots_eq_self hslots
  induction passes with
  | nil => exact absurd hgpus List.not_mem_nil
  | cons pass passes ih =>
    cases pass with
    | slots =>
      have hmem : Pass.gpus ∈ passes := (List.mem_cons.1 hgpus).resolve_left (by decide)
      rw [runAll_cons, Pass.runJob, hrest, ih hmem]
    | gpus => exact hsettled.runAll_eq _
    | both =>
      have hboth : job.reconcile shape = job.requireShapeGpus shape := by
        rw [reconcile, withSomeNode_eq_self hnode, hrest]
      rw [runAll_cons, Pass.runJob, hboth]
      exact hsettled.runAll_eq _

/-- The pass over graphics processors rests until the slot pass has run. -/
lemma runAll_of_gpus_run (hnode : 1 ≤ job.nodes.toNat)
    (hgpus : job.gpuNeed shape.gpuNat ≤ job.nodes.toNat)
    (htasks : job.taskNeed shape.gpuNat ≤ job.nodes.toNat) (hslots : Pass.slots ∈ passes) :
    job.runAll shape passes = job.requireShapeSlots shape := by
  have hsettled := settled_requireShapeSlots hnode hgpus htasks
  have hrest := requireShapeGpus_eq_self hgpus htasks
  induction passes with
  | nil => exact absurd hslots List.not_mem_nil
  | cons pass passes ih =>
    cases pass with
    | slots => exact hsettled.runAll_eq _
    | gpus =>
      have hmem : Pass.slots ∈ passes := (List.mem_cons.1 hslots).resolve_left (by decide)
      rw [runAll_cons, Pass.runJob, hrest, ih hmem]
    | both =>
      have hboth : job.reconcile shape = job.requireShapeSlots shape := by
        rw [reconcile, withSomeNode_eq_self hnode, hsettled.requireShapeGpus_eq]
      rw [runAll_cons, Pass.runJob, hboth]
      exact hsettled.runAll_eq _

/-! ### The two orders -/

/-- A run that does not start with the pass over graphics processors is a computation of the
requirements. -/
lemma runAll_of_slots_first (hnode : 1 ≤ job.nodes.toNat) (hgpus : Pass.gpus ∈ passes)
    (hfirst : passes.head? ≠ some .gpus) : job.runAll shape passes = job.reconcile shape := by
  have hsome := withSomeNode_eq_self hnode
  cases passes with
  | nil => exact absurd hgpus List.not_mem_nil
  | cons pass passes =>
    cases pass with
    | slots =>
      have hmem : Pass.gpus ∈ passes := (List.mem_cons.1 hgpus).resolve_left (by decide)
      have hnodes := toNat_nodes_requireShapeSlots shape job
      have hneed := slotNeed_requireShapeSlots shape job shape.slotNat
      rw [runAll_cons, Pass.runJob, reconcile, hsome]
      refine runAll_of_slots_run ?_ ?_ hmem
      · omega
      · omega
    | gpus => exact absurd rfl hfirst
    | both => exact (settled_reconcile shape job).runAll_eq _

lemma runAll_of_gpus_first (hnode : 1 ≤ job.nodes.toNat) (hslots : Pass.slots ∈ passes)
    (hfirst : passes.head? = some .gpus) :
    job.runAll shape passes = (job.requireShapeGpus shape).requireShapeSlots shape := by
  cases passes with
  | nil => exact absurd hslots List.not_mem_nil
  | cons pass passes =>
    obtain rfl := Option.some.inj hfirst
    have hmem : Pass.slots ∈ passes := (List.mem_cons.1 hslots).resolve_left (by decide)
    have hraised := raised_requireShapeGpus shape job
    have hnodes := toNat_nodes_requireShapeGpus shape job
    rw [runAll_cons, Pass.runJob]
    refine runAll_of_gpus_run ?_ ?_ ?_ hmem
    · omega
    · rw [hraised.gpuNeed_eq]
      omega
    · rw [hraised.taskNeed_eq]
      omega

/-- A greater CPU count does not lower the slot need. -/
lemma Raised.slotNeed_le {a b : Job} (h : Raised a b) (slots : ℕ) :
    a.slotNeed slots ≤ b.slotNeed slots := by
  unfold slotNeed
  rw [h.cpusMinPerNode_eq]
  exact ceilDiv_le_ceilDiv h.cpus_le le_rfl (Nat.eq_zero_or_pos _)

lemma toNat_nodes_gpus_slots (hnode : 1 ≤ job.nodes.toNat) :
    ((job.requireShapeGpus shape).requireShapeSlots shape).nodes.toNat =
      (job.reconcile shape).nodes.toNat := by
  have hnodes := toNat_nodes_requireShapeGpus shape job
  have hmost := slotNeed_requireShapeGpus_le shape.slotNat shape job
  have hleast := (raised_requireShapeGpus shape job).slotNeed_le shape.slotNat
  rw [toNat_nodes_requireShapeSlots, toNat_nodes_reconcile]
  omega

/-- Where fewer nodes are added the CPU count is raised less. -/
lemma toNat_cpusTotal_raiseNodes_le {a b : Job} (least : UInt64)
    (hmin : b.cpusMinPerNode = a.cpusMinPerNode) (hnodes : a.nodes.toNat ≤ b.nodes.toNat)
    (hcpus : b.cpusTotal.toNat ≤ a.cpusTotal.toNat) :
    (b.raiseNodes least).cpusTotal.toNat ≤ (a.raiseNodes least).cpusTotal.toNat := by
  rcases Nat.lt_or_ge b.nodes.toNat least.toNat with hlt | hge
  · rw [toNat_cpusTotal_raiseNodes hlt, toNat_cpusTotal_raiseNodes (hnodes.trans_lt hlt), hmin]
    exact max_le_max_right _ hcpus
  · rw [raiseNodes_eq_self hge]
    exact hcpus.trans (raised_raiseNodes least a).cpus_le

lemma toNat_cpusTotal_requireShapeGpus_le {a b : Job} (h : Raised a b)
    (hcpus : b.cpusTotal = a.cpusTotal) :
    (b.requireShapeGpus shape).cpusTotal.toNat ≤ (a.requireShapeGpus shape).cpusTotal.toNat := by
  have hle : b.cpusTotal.toNat ≤ a.cpusTotal.toNat := (congrArg UInt64.toNat hcpus).le
  rw [requireShapeGpus_eq, requireShapeGpus_eq, h.gpuNeed_eq, h.taskNeed_eq]
  exact toNat_cpusTotal_raiseNodes_le _ h.cpusMinPerNode_eq h.nodes_le hle

lemma toNat_cpusTotal_reconcile_le (hnode : 1 ≤ job.nodes.toNat) :
    (job.reconcile shape).cpusTotal.toNat ≤
      ((job.requireShapeGpus shape).requireShapeSlots shape).cpusTotal.toNat := by
  rw [reconcile, withSomeNode_eq_self hnode, cpusTotal_requireShapeSlots]
  exact toNat_cpusTotal_requireShapeGpus_le (raised_requireShapeSlots shape job)
    (cpusTotal_requireShapeSlots shape job)

/-- The two orders leave a job with the same attributes but for its CPU count. -/
lemma gpus_slots_eq_with (hnode : 1 ≤ job.nodes.toNat) :
    (job.requireShapeGpus shape).requireShapeSlots shape = { job.reconcile shape with
      cpusTotal := ((job.requireShapeGpus shape).requireShapeSlots shape).cpusTotal } := by
  have hraised := (raised_requireShapeGpus shape job).trans (raised_requireShapeSlots shape _)
  have hnodes : ((job.requireShapeGpus shape).requireShapeSlots shape).nodes =
      (job.reconcile shape).nodes := UInt64.toNat_inj.1 (toNat_nodes_gpus_slots hnode)
  rw [(raised_reconcile shape job).eq_with]
  calc (job.requireShapeGpus shape).requireShapeSlots shape
      = _ := hraised.eq_with
    _ = _ := by rw [hnodes]

end Job

/-- **The passes are confluent.**  Take a list of jobs with a node each, and a run of passes in which
both the slot pass and the pass over graphics processors occur.  It ends with the node counts
that the requirements have.  If it does not start with the pass over graphics processors, it ends
with the requirements themselves, and if it does, only CPU counts may differ, and are not
smaller. -/
theorem Requirement.runPasses_confluent (shape : NodeShape) {jobs : List Job}
    (hjobs : ∀ job ∈ jobs, 1 ≤ job.nodes.toNat) {passes : List Pass}
    (hslots : Pass.slots ∈ passes) (hgpus : Pass.gpus ∈ passes) :
    (runPasses shape passes jobs).map Job.nodes =
        (Requirement.reconcile shape jobs).value.map Job.nodes ∧
      (passes.head? ≠ some .gpus →
        runPasses shape passes jobs = (Requirement.reconcile shape jobs).value) ∧
      (passes.head? = some .gpus →
        List.Forall₂
          (fun required final : Job =>
            final = { required with cpusTotal := final.cpusTotal } ∧
              required.cpusTotal.toNat ≤ final.cpusTotal.toNat)
          (Requirement.reconcile shape jobs).value (runPasses shape passes jobs)) := by
  rw [runPasses_eq_map, Requirement.value_reconcile]
  refine ⟨?_, ?_, ?_⟩
  · rw [List.map_map, List.map_map]
    refine List.map_congr_left fun job hjob => ?_
    rw [Function.comp_apply, Function.comp_apply]
    by_cases hfirst : passes.head? = some .gpus
    · rw [Job.runAll_of_gpus_first (hjobs job hjob) hslots hfirst, ← UInt64.toNat_inj]
      exact Job.toNat_nodes_gpus_slots (hjobs job hjob)
    · rw [Job.runAll_of_slots_first (hjobs job hjob) hgpus hfirst]
  · intro hfirst
    exact List.map_congr_left fun job hjob =>
      Job.runAll_of_slots_first (hjobs job hjob) hgpus hfirst
  · intro hfirst
    rw [List.forall₂_map_left_iff, List.forall₂_map_right_iff, List.forall₂_same]
    intro job hjob
    rw [Job.runAll_of_gpus_first (hjobs job hjob) hslots hfirst]
    exact ⟨Job.gpus_slots_eq_with (hjobs job hjob), Job.toNat_cpusTotal_reconcile_le (hjobs job hjob)⟩

/-- A job that needs three nodes both for its seven CPUs, in chunks of three, and for its twelve
graphics processors. -/
def chunkedJob : Job where
  id := "79"
  nodes := 1
  cpusTotal := 7
  cpusMinPerNode := 3
  tresPerJob := Tres.ofList [(Tres.gpu, 12)]

/-- Where the pass over graphics processors is the first to add the nodes, it asks for a chunk on
each of them. -/
theorem Requirement.runPasses_chunkedJob :
    (∀ job ∈ [chunkedJob], 1 ≤ job.nodes.toNat) ∧
      [Pass.gpus, .slots, .gpus].head? = some .gpus ∧
      runPasses ⟨some 4, 4⟩ [.gpus, .slots, .gpus] [chunkedJob] =
        [{ chunkedJob with nodes := 3, cpusTotal := 9 }] ∧
      (Requirement.reconcile ⟨some 4, 4⟩ [chunkedJob]).value =
        [{ chunkedJob with nodes := 3, cpusTotal := 7 }] ∧
      List.Forall₂
          (fun required final : Job =>
            final = { required with cpusTotal := final.cpusTotal } ∧
              required.cpusTotal.toNat ≤ final.cpusTotal.toNat)
          (Requirement.reconcile ⟨some 4, 4⟩ [chunkedJob]).value
          (runPasses ⟨some 4, 4⟩ [.gpus, .slots, .gpus] [chunkedJob]) := by
  have hjobs : ∀ job ∈ [chunkedJob], 1 ≤ job.nodes.toNat := by decide
  refine ⟨hjobs, rfl, by decide, by decide, ?_⟩
  exact (runPasses_confluent ⟨some 4, 4⟩ hjobs (by decide) (by decide)).2.2 rfl

end NodeDemand
