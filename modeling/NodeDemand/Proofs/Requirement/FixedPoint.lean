/-
# The passes come to rest

The pass over graphics processors may raise the CPU count of a job, from which the slot pass
computes its need.  Still nothing more happens once the passes have run: a job is *settled* when
it has a node and no rule asks for more nodes than it has, and

* `settled_reconcile` says that the passes leave every job settled;
* `Settled.runAll_eq` says that no passes change a settled job.

The invariant that carries the first is that the slot need never passes the node count when nodes
are added (`slotNeed_raiseNodes_le`): the CPUs that a raise asks for are one chunk on every node,
and a node holds at least one chunk where the slot rule applies at all.
-/
import NodeDemand.Proofs.Candidates

namespace NodeDemand

namespace Job

/-- A job has a node and all the nodes that the rules ask for. -/
structure Settled (shape : NodeShape) (job : Job) : Prop where
  /-- The job has a node. -/
  some_node : 1 ≤ job.nodes.toNat
  /-- The slot rule asks for no more. -/
  slots : job.slotNeed shape.slotNat ≤ job.nodes.toNat
  /-- The rule for the graphics processors in all asks for no more. -/
  gpus : job.gpuNeed shape.gpuNat ≤ job.nodes.toNat
  /-- The rule for the graphics processors of the tasks asks for no more. -/
  tasks : job.taskNeed shape.gpuNat ≤ job.nodes.toNat

/-! ### The passes leave jobs settled -/

/-- Chunks of the least CPU count, one for each node, fit on the nodes. -/
lemma mul_le_of_slotNeed {slots m n : ℕ} (hm : 0 < m) (hle : m ≤ slots) :
    n * m ≤ m * (slots / m) * n := by
  have hroom : 1 ≤ slots / m := Nat.div_pos hle hm
  calc n * m = m * 1 * n := by rw [Nat.mul_one, Nat.mul_comm]
    _ ≤ m * (slots / m) * n := Nat.mul_le_mul_right n (Nat.mul_le_mul_left m hroom)

/-- Raising the node count raises the slot need to the new node count at most, although it may
raise the CPU count. -/
lemma slotNeed_raiseNodes_le (slots : ℕ) (least : UInt64) (job : Job) :
    (job.raiseNodes least).slotNeed slots ≤
      max (job.slotNeed slots) (job.raiseNodes least).nodes.toNat := by
  rcases Nat.lt_or_ge job.nodes.toNat least.toNat with hlt | hge
  · have hmin := (raised_raiseNodes least job).cpusMinPerNode_eq
    have hnodes : (job.raiseNodes least).nodes.toNat = least.toNat := by
      rw [toNat_nodes_raiseNodes]
      exact max_eq_right hlt.le
    rw [slotNeed, hmin, hnodes]
    rcases Nat.eq_zero_or_pos
      (job.cpusMinPerNode.toNat * (slots / job.cpusMinPerNode.toNat)) with hzero | hpos
    -- a chunk of nothing or one that no node holds is not asked for
    · rw [hzero, ceilDiv_zero]
      exact Nat.zero_le _
    · have hm := Nat.pos_of_mul_pos_right hpos
      have hroom := Nat.pos_of_mul_pos_left hpos
      have hbefore := (ceilDiv_le_iff_le_mul hpos).1 (le_refl (job.slotNeed slots))
      rw [ceilDiv_le_iff_le_mul hpos, toNat_cpusTotal_raiseNodes hlt]
      -- what was asked for before fits on the nodes it needs, and a chunk fits on each new node
      refine max_le ?_ ?_
      · exact hbefore.trans (Nat.mul_le_mul_left _ (le_max_left _ _))
      · calc min (least.toNat * job.cpusMinPerNode.toNat) (UInt64.size - 1)
            ≤ least.toNat * job.cpusMinPerNode.toNat := min_le_left _ _
          _ ≤ _ := mul_le_of_slotNeed hm (Nat.div_pos_iff.1 hroom).2
          _ ≤ _ := Nat.mul_le_mul_left _ (le_max_right _ _)
  · rw [raiseNodes_eq_self hge]
    exact le_max_left _ _

lemma slotNeed_requireShapeGpus_le (slots : ℕ) (shape : NodeShape) (job : Job) :
    (job.requireShapeGpus shape).slotNeed slots ≤
      max (job.slotNeed slots) (job.requireShapeGpus shape).nodes.toNat := by
  rw [requireShapeGpus_eq]
  exact slotNeed_raiseNodes_le slots _ job

variable {shape : NodeShape} {job : Job}

/-- The pass over graphics processors settles a job that has all the nodes of the slot rule. -/
lemma settled_requireShapeGpus (hnode : 1 ≤ job.nodes.toNat)
    (hslots : job.slotNeed shape.slotNat ≤ job.nodes.toNat) :
    (job.requireShapeGpus shape).Settled shape := by
  have hraised := raised_requireShapeGpus shape job
  have hnodes := toNat_nodes_requireShapeGpus shape job
  have hneed := slotNeed_requireShapeGpus_le shape.slotNat shape job
  refine ⟨?_, ?_, ?_, ?_⟩
  · omega
  · omega
  · rw [hraised.gpuNeed_eq]
    omega
  · rw [hraised.taskNeed_eq]
    omega

/-- The slot pass settles a job that has all the nodes of the rules for graphics processors. -/
lemma settled_requireShapeSlots (hnode : 1 ≤ job.nodes.toNat)
    (hgpus : job.gpuNeed shape.gpuNat ≤ job.nodes.toNat)
    (htasks : job.taskNeed shape.gpuNat ≤ job.nodes.toNat) :
    (job.requireShapeSlots shape).Settled shape := by
  have hraised := raised_requireShapeSlots shape job
  have hnodes := toNat_nodes_requireShapeSlots shape job
  refine ⟨?_, ?_, ?_, ?_⟩
  · omega
  · rw [slotNeed_requireShapeSlots]
    omega
  · rw [hraised.gpuNeed_eq]
    omega
  · rw [hraised.taskNeed_eq]
    omega

lemma settled_reconcile (shape : NodeShape) (job : Job) : (job.reconcile shape).Settled shape := by
  have hsome := toNat_nodes_withSomeNode job
  have hnodes := toNat_nodes_requireShapeSlots shape job.withSomeNode
  refine settled_requireShapeGpus ?_ ?_
  · omega
  · rw [slotNeed_requireShapeSlots]
    omega

/-! ### The passes leave settled jobs as they are -/

lemma withSomeNode_eq_self (h : 1 ≤ job.nodes.toNat) : job.withSomeNode = job := by
  have hne : job.nodes ≠ 0 := by
    intro h0
    rw [h0] at h
    exact absurd h (by decide)
  exact if_neg hne

lemma requireShapeSlots_eq_self (h : job.slotNeed shape.slotNat ≤ job.nodes.toNat) :
    job.requireShapeSlots shape = job := by
  have hnodes : (job.requireShapeSlots shape).nodes = job.nodes := by
    rw [← UInt64.toNat_inj, toNat_nodes_requireShapeSlots]
    exact max_eq_left h
  rw [(raised_requireShapeSlots shape job).eq_with, hnodes, cpusTotal_requireShapeSlots]

lemma requireShapeGpus_eq_self (hgpus : job.gpuNeed shape.gpuNat ≤ job.nodes.toNat)
    (htasks : job.taskNeed shape.gpuNat ≤ job.nodes.toNat) :
    job.requireShapeGpus shape = job := by
  rw [requireShapeGpus_eq]
  refine raiseNodes_eq_self ?_
  rw [toNat_larger_needs]
  exact max_le hgpus htasks

lemma Settled.requireShapeSlots_eq (h : job.Settled shape) : job.requireShapeSlots shape = job :=
  requireShapeSlots_eq_self h.slots

lemma Settled.requireShapeGpus_eq (h : job.Settled shape) : job.requireShapeGpus shape = job :=
  requireShapeGpus_eq_self h.gpus h.tasks

lemma Settled.reconcile_eq (h : job.Settled shape) : job.reconcile shape = job := by
  rw [reconcile, withSomeNode_eq_self h.some_node, h.requireShapeSlots_eq, h.requireShapeGpus_eq]

end Job

/-! ### Runs of passes -/

/-- A pass over a list of jobs for nodes of a given shape. -/
inductive Pass where
  /-- The slot pass, if the shape asks for it. -/
  | slots
  /-- The pass over graphics processors. -/
  | gpus
  /-- One node for every job, and both passes. -/
  | both
deriving DecidableEq, Repr

/-- The jobs after a pass. -/
def Pass.run (shape : NodeShape) (jobs : List Job) : Pass → List Job
  | slots => (Requirement.requireShapeSlots shape jobs).value
  | gpus => (Requirement.requireGpus shape jobs).value
  | both => (Requirement.reconcile shape jobs).value

/-- The jobs after passes, one after the other. -/
def runPasses (shape : NodeShape) (passes : List Pass) (jobs : List Job) : List Job :=
  passes.foldl (Pass.run shape) jobs

/-- A job after a pass. -/
def Pass.runJob (shape : NodeShape) (job : Job) : Pass → Job
  | slots => job.requireShapeSlots shape
  | gpus => job.requireShapeGpus shape
  | both => job.reconcile shape

/-- A job after passes, one after the other. -/
def Job.runAll (shape : NodeShape) (passes : List Pass) (job : Job) : Job :=
  passes.foldl (Pass.runJob shape) job

lemma Pass.run_eq_map (shape : NodeShape) (jobs : List Job) (pass : Pass) :
    pass.run shape jobs = jobs.map fun job => pass.runJob shape job := by
  cases pass with
  | slots => exact Requirement.value_requireShapeSlots shape jobs
  | gpus => exact Requirement.value_requireGpus shape jobs
  | both => exact Requirement.value_reconcile shape jobs

/-- A run over a list is a run over each of its jobs. -/
lemma runPasses_eq_map (shape : NodeShape) (passes : List Pass) (jobs : List Job) :
    runPasses shape passes jobs = jobs.map (Job.runAll shape passes) := by
  unfold runPasses
  induction passes generalizing jobs with
  | nil => exact (List.map_id jobs).symm
  | cons pass passes ih =>
    rw [List.foldl_cons, ih, Pass.run_eq_map, List.map_map]
    rfl

variable {shape : NodeShape} {jobs : List Job}

namespace Job

lemma runAll_cons {job : Job} {passes : List Pass} (pass : Pass) :
    job.runAll shape (pass :: passes) = (pass.runJob shape job).runAll shape passes := rfl

lemma Settled.runJob_eq {job : Job} (h : job.Settled shape) (pass : Pass) :
    pass.runJob shape job = job := by
  cases pass with
  | slots => exact h.requireShapeSlots_eq
  | gpus => exact h.requireShapeGpus_eq
  | both => exact h.reconcile_eq

lemma Settled.runAll_eq {job : Job} (h : job.Settled shape) (passes : List Pass) :
    job.runAll shape passes = job := by
  induction passes with
  | nil => rfl
  | cons pass passes ih => rw [runAll_cons, h.runJob_eq, ih]

end Job

/-- A list is left as it is by a function that leaves its members as they are. -/
lemma map_eq_self {f : Job → Job} (h : ∀ job ∈ jobs, f job = job) : jobs.map f = jobs := by
  rw [List.map_congr_left h, List.map_id']

lemma runPasses_eq_self (passes : List Pass) (h : ∀ job ∈ jobs, job.Settled shape) :
    runPasses shape passes jobs = jobs := by
  rw [runPasses_eq_map]
  exact map_eq_self fun job hjob => (h job hjob).runAll_eq passes

lemma settled_of_mem_reconcile {job : Job}
    (h : job ∈ (Requirement.reconcile shape jobs).value) : job.Settled shape := by
  rw [Requirement.value_reconcile, List.mem_map] at h
  obtain ⟨before, -, rfl⟩ := h
  exact Job.settled_reconcile shape before

/-! ### The pending jobs of a snapshot -/

lemma settled_of_mem_pendingOf {criteria : Criteria} {job : Job}
    (h : job ∈ (pendingOf shape criteria jobs).value) : job.Settled shape := by
  rw [value_pendingOf, List.mem_filter, List.mem_map] at h
  obtain ⟨⟨before, -, rfl⟩, -⟩ := h
  exact Job.settled_reconcile shape before

/-- The jobs that are kept are pending and accepted, so they are kept once more. -/
lemma pendingOf_pendingOf (criteria : Criteria) :
    (pendingOf shape criteria (pendingOf shape criteria jobs).value).value =
      (pendingOf shape criteria jobs).value := by
  have hpending : ∀ job ∈ (pendingOf shape criteria jobs).value, job.state.isPending = true := by
    intro job hjob
    rw [value_pendingOf, List.mem_filter, List.mem_map] at hjob
    obtain ⟨⟨before, hbefore, rfl⟩, -⟩ := hjob
    rw [(Job.raised_reconcile shape before).eq_with]
    exact (List.mem_filter.1 hbefore).2
  have haccepted : ∀ job ∈ (pendingOf shape criteria jobs).value, criteria.accepts job = true := by
    intro job hjob
    rw [value_pendingOf] at hjob
    exact (List.mem_filter.1 hjob).2
  -- now the three stages leave the list as it is one after the other
  rw [value_pendingOf shape criteria (pendingOf shape criteria jobs).value,
    List.filter_eq_self.2 hpending,
    map_eq_self fun job hjob => (settled_of_mem_pendingOf hjob).reconcile_eq,
    List.filter_eq_self.2 haccepted]

/-- **The passes reach a common fixed point.**  Once the passes have run over a list, no further
run of passes, of any length and in any order, changes a job of it.  So the pending jobs that are
taken from a snapshot are taken again, unchanged, when they are given as a snapshot themselves. -/
theorem Requirement.reconcile_fixed (shape : NodeShape) (jobs : List Job) :
    (∀ passes : List Pass,
        runPasses shape passes (Requirement.reconcile shape jobs).value =
          (Requirement.reconcile shape jobs).value) ∧
      ∀ (world : World) (criteria : Criteria), ∃ candidates : List Job,
        (pendingJobs world (.snapshot jobs) shape criteria).value = .ok candidates ∧
          (pendingJobs world (.snapshot candidates) shape criteria).value = .ok candidates := by
  constructor
  · intro passes
    exact runPasses_eq_self passes fun job hjob => settled_of_mem_reconcile hjob
  · intro world criteria
    refine ⟨(pendingOf shape criteria jobs).value, value_pendingJobs_snapshot .., ?_⟩
    rw [value_pendingJobs_snapshot, pendingOf_pendingOf]

end NodeDemand
