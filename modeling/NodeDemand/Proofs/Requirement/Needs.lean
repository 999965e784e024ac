/-
# What each rule asks of the node count

The rules of `NodeDemand.Requirement` work on 64-bit counts behind guards.  Here each of them is
described in natural numbers, without a guard: a rule asks for a number of nodes, its *need*, which
is zero exactly where the rule is skipped, because the divisor is zero there.

* `toNat_nodes_withSomeNode`, `toNat_nodes_requireSlots` and `toNat_nodes_raiseNodes` say that a
  rule raises the node count to its need;
* `requireGpusPerJob_eq` and `requireGpusPerTask_eq` say that both rules for graphics processors
  are `Job.raiseNodes` with their needs, and by `raiseNodes_raiseNodes` the two are one raise to the
  greater need;
* `Job.Raised` says that a rule touches nothing but the node count and the CPU count, and lowers
  neither;
* `value_reconcile` says that the passes over a list treat every job by itself.
-/
import NodeDemand.Requirement
import Mathlib.Algebra.Order.Floor.Div

namespace NodeDemand

namespace NodeShape

/-- The number of slots of a node, or zero if the slot pass is not wanted. -/
def slotNat (shape : NodeShape) : ℕ := (shape.slots.getD 0).toNat

/-- The number of graphics processors of a node, or zero if there are none. -/
def gpuNat (shape : NodeShape) : ℕ := shape.gpus.toInt.toNat

lemma gpuCount?_cases (shape : NodeShape) : shape.gpuCount? = none ∧ shape.gpuNat = 0 ∨
    ∃ gpus : UInt64, shape.gpuCount? = some gpus ∧ gpus.toNat = shape.gpuNat ∧
      0 < gpus.toNat := by
  unfold gpuCount? gpuNat
  split
  · rename_i h
    have hpos : 0 < shape.gpus.toInt := by simpa using Int64.lt_iff_toInt_lt.1 h
    have hlt : shape.gpus.toInt.toNat < UInt64.size := by
      have := shape.gpus.toInt_lt
      have hsize : UInt64.size = 2 ^ 64 := rfl
      omega
    have hof := UInt64.toNat_ofNat_of_lt' hlt
    exact Or.inr ⟨_, rfl, hof, by omega⟩
  · rename_i h
    have hle : ¬ 0 < shape.gpus.toInt := fun hpos =>
      h (Int64.lt_iff_toInt_lt.2 (by simpa using hpos))
    exact Or.inl ⟨rfl, by omega⟩

lemma toNat_pos_of_gpuCount? {shape : NodeShape} {gpus : UInt64}
    (h : shape.gpuCount? = some gpus) : 0 < gpus.toNat := by
  rcases shape.gpuCount?_cases with ⟨hnone, -⟩ | ⟨count, hsome, -, hpos⟩
  · rw [hnone] at h
    exact absurd h (by simp)
  · rw [hsome] at h
    exact Option.some.inj h ▸ hpos

/-- The natural number of graphics processors is the reported one where that is not negative. -/
lemma gpuNat_eq {shape : NodeShape} {gpus : ℕ} (h : shape.gpus.toInt = gpus) :
    shape.gpuNat = gpus := by
  rw [gpuNat, h, Int.toNat_natCast]

lemma toInt_gpus_eq {shape : NodeShape} (h : 0 < shape.gpuNat) :
    shape.gpus.toInt = shape.gpuNat := by
  unfold gpuNat at h ⊢
  omega

end NodeShape

namespace Job

/-- The number of nodes that hold the CPUs of a job in whole chunks of its least CPU count. -/
def slotNeed (slots : ℕ) (job : Job) : ℕ :=
  job.cpusTotal.toNat ⌈/⌉ (job.cpusMinPerNode.toNat * (slots / job.cpusMinPerNode.toNat))

/-- The number of nodes that hold the graphics processors that a job asks for in all. -/
def gpuNeed (gpus : ℕ) (job : Job) : ℕ := (job.gpusPerJob?.getD 0).toNat ⌈/⌉ gpus

/-- The number of nodes that hold the tasks of a job with their graphics processors. -/
def taskNeed (gpus : ℕ) (job : Job) : ℕ :=
  job.tasks.toNat ⌈/⌉ (gpus / (job.gpusPerTask?.getD 0).toNat)

/-- The job `after` is the job `before` with a node count and a CPU count that may be greater. -/
structure Raised (before after : Job) : Prop where
  eq_with : after = { before with nodes := after.nodes, cpusTotal := after.cpusTotal }
  nodes_le : before.nodes.toNat ≤ after.nodes.toNat
  cpus_le : before.cpusTotal.toNat ≤ after.cpusTotal.toNat

namespace Raised

variable {a b c : Job}

lemma refl (a : Job) : Raised a a := ⟨rfl, le_rfl, le_rfl⟩

lemma trans (hab : Raised a b) (hbc : Raised b c) : Raised a c := by
  refine ⟨?_, hab.nodes_le.trans hbc.nodes_le, hab.cpus_le.trans hbc.cpus_le⟩
  have h := hbc.eq_with
  rw [hab.eq_with] at h
  exact h

/-- What a raise leaves is known from the node count and the CPU count. -/
lemma eq_of_counts (hb : Raised a b) (hc : Raised a c) (hnodes : b.nodes.toNat = c.nodes.toNat)
    (hcpus : b.cpusTotal.toNat = c.cpusTotal.toNat) : b = c := by
  rw [hb.eq_with, hc.eq_with, UInt64.toNat_inj.1 hnodes, UInt64.toNat_inj.1 hcpus]

lemma cpusMinPerNode_eq (h : Raised a b) : b.cpusMinPerNode = a.cpusMinPerNode := by
  rw [h.eq_with]

lemma gpuNeed_eq (h : Raised a b) (gpus : ℕ) : b.gpuNeed gpus = a.gpuNeed gpus := by
  rw [h.eq_with]
  rfl

lemma taskNeed_eq (h : Raised a b) (gpus : ℕ) : b.taskNeed gpus = a.taskNeed gpus := by
  rw [h.eq_with]
  rfl

end Raised

/-! ### One node at least -/

lemma toNat_nodes_withSomeNode (job : Job) :
    job.withSomeNode.nodes.toNat = max 1 job.nodes.toNat := by
  unfold withSomeNode
  split
  · rename_i h
    rw [h]
    rfl
  · rename_i h
    have hpos : job.nodes.toNat ≠ 0 := fun h0 => h (UInt64.toNat_inj.1 (by simpa using h0))
    omega

lemma cpusTotal_withSomeNode (job : Job) : job.withSomeNode.cpusTotal = job.cpusTotal := by
  unfold withSomeNode
  split <;> rfl

lemma raised_withSomeNode (job : Job) : Raised job job.withSomeNode := by
  refine ⟨?_, ?_, ?_⟩
  · unfold withSomeNode
    split <;> rfl
  · rw [toNat_nodes_withSomeNode]
    exact le_max_right _ _
  · rw [cpusTotal_withSomeNode]

lemma slotNeed_withSomeNode (slots : ℕ) (job : Job) :
    job.withSomeNode.slotNeed slots = job.slotNeed slots := by
  unfold withSomeNode
  split <;> rfl

/-! ### The slot rule -/

lemma fitsSlots_iff {slots : UInt64} {job : Job} :
    job.fitsSlots slots = true ↔
      0 < job.cpusMinPerNode.toNat ∧ job.cpusMinPerNode.toNat ≤ slots.toNat := by
  have hzero : job.cpusMinPerNode = 0 ↔ job.cpusMinPerNode.toNat = 0 := by
    rw [← UInt64.toNat_inj]
    rfl
  simp only [fitsSlots, Bool.not_eq_true', Bool.or_eq_false_iff, beq_eq_false_iff_ne, ne_eq,
    decide_eq_false_iff_not, UInt64.lt_iff_toNat_lt, hzero]
  omega

/-- The usable slots are those of the whole chunks that a node holds. -/
lemma toNat_usableSlots (slots : UInt64) (job : Job) :
    (job.usableSlots slots).toNat =
      job.cpusMinPerNode.toNat * (slots.toNat / job.cpusMinPerNode.toNat) := by
  have hle : slots % job.cpusMinPerNode ≤ slots := by
    rw [UInt64.le_iff_toNat_le, UInt64.toNat_mod]
    exact Nat.mod_le _ _
  rw [usableSlots, UInt64.toNat_sub_of_le _ _ hle, UInt64.toNat_mod]
  have := Nat.div_add_mod slots.toNat job.cpusMinPerNode.toNat
  omega

/-- A job whose least CPU count does not fit on a node has no need for the slot rule. -/
lemma slotNeed_eq_zero {slots : UInt64} {job : Job} (h : job.fitsSlots slots = false) :
    job.slotNeed slots.toNat = 0 := by
  have hnot : ¬(0 < job.cpusMinPerNode.toNat ∧ job.cpusMinPerNode.toNat ≤ slots.toNat) := by
    rw [← fitsSlots_iff, h]
    exact Bool.false_ne_true
  have hdiv : job.cpusMinPerNode.toNat * (slots.toNat / job.cpusMinPerNode.toNat) = 0 := by
    rcases Nat.eq_zero_or_pos job.cpusMinPerNode.toNat with hm | hm
    · rw [hm, Nat.zero_mul]
    · rw [Nat.div_eq_of_lt (by omega), Nat.mul_zero]
  rw [slotNeed, hdiv, ceilDiv_zero]

lemma toNat_nodes_requireSlots (slots : UInt64) (job : Job) :
    (job.requireSlots slots).nodes.toNat = max job.nodes.toNat (job.slotNeed slots.toNat) := by
  unfold requireSlots
  split
  · rename_i h
    obtain ⟨hm, hle⟩ := fitsSlots_iff.1 h
    have hpos : 0 < (job.usableSlots slots).toNat := by
      rw [toNat_usableSlots]
      exact Nat.mul_pos hm (Nat.div_pos hle hm)
    rw [Count.toNat_larger, Count.toNat_ceilDiv hpos, ← Nat.ceilDiv_eq_add_pred_div,
      toNat_usableSlots]
    rfl
  · rename_i h
    rw [slotNeed_eq_zero (Bool.eq_false_iff.2 h)]
    omega

lemma raised_requireSlots (slots : UInt64) (job : Job) : Raised job (job.requireSlots slots) := by
  refine ⟨?_, ?_, ?_⟩
  · unfold requireSlots
    split <;> rfl
  · rw [toNat_nodes_requireSlots]
    exact le_max_left _ _
  · unfold requireSlots
    split <;> exact le_rfl

/-- The slot rule does not change what it asks for. -/
lemma slotNeed_requireSlots (slots : ℕ) (most : UInt64) (job : Job) :
    (job.requireSlots most).slotNeed slots = job.slotNeed slots := by
  unfold requireSlots
  split <;> rfl

/-! ### Raising the node count -/

lemma toNat_nodes_raiseNodes (least : UInt64) (job : Job) :
    (job.raiseNodes least).nodes.toNat = max job.nodes.toNat least.toNat := by
  unfold raiseNodes
  split
  · rename_i h
    exact (max_eq_left (UInt64.le_iff_toNat_le.1 h)).symm
  · rename_i h
    have hlt : job.nodes.toNat < least.toNat := by
      rw [UInt64.le_iff_toNat_le] at h
      omega
    exact (max_eq_right hlt.le).symm

/-- A job that has enough nodes is left as it is. -/
lemma raiseNodes_eq_self {least : UInt64} {job : Job} (h : least.toNat ≤ job.nodes.toNat) :
    job.raiseNodes least = job :=
  if_pos (UInt64.le_iff_toNat_le.2 h)

/-- A job whose node count is raised asks for its least CPU count on every node, as far as that
product is a count. -/
lemma toNat_cpusTotal_raiseNodes {least : UInt64} {job : Job}
    (h : job.nodes.toNat < least.toNat) :
    (job.raiseNodes least).cpusTotal.toNat =
      max job.cpusTotal.toNat
        (min (least.toNat * job.cpusMinPerNode.toNat) (UInt64.size - 1)) := by
  have hnot : ¬ least ≤ job.nodes := by
    rw [UInt64.le_iff_toNat_le]
    omega
  rw [raiseNodes, if_neg hnot, ← Count.toNat_mul, ← Count.toNat_larger]

lemma raised_raiseNodes (least : UInt64) (job : Job) : Raised job (job.raiseNodes least) := by
  refine ⟨?_, ?_, ?_⟩
  · unfold raiseNodes
    split <;> rfl
  · rw [toNat_nodes_raiseNodes]
    exact le_max_left _ _
  · rcases Nat.lt_or_ge job.nodes.toNat least.toNat with h | h
    · rw [toNat_cpusTotal_raiseNodes h]
      exact le_max_left _ _
    · rw [raiseNodes_eq_self h]

/-- Two raises of the node count, one after the other, are one raise to the greater count. -/
theorem raiseNodes_raiseNodes (first second : UInt64) (job : Job) :
    (job.raiseNodes first).raiseNodes second = job.raiseNodes (Count.larger first second) := by
  have hfirst := raised_raiseNodes first job
  have hlarger := Count.toNat_larger first second
  have hnodes := toNat_nodes_raiseNodes first job
  refine (hfirst.trans (raised_raiseNodes second _)).eq_of_counts (raised_raiseNodes _ job) ?_ ?_
  · rw [toNat_nodes_raiseNodes, hnodes, toNat_nodes_raiseNodes, hlarger, max_assoc]
  · rcases Nat.lt_or_ge job.nodes.toNat first.toNat with hlt | hge
    · have hcpus := toNat_cpusTotal_raiseNodes hlt
      have hboth := @toNat_cpusTotal_raiseNodes (Count.larger first second) job (by omega)
      rw [hlarger] at hboth
      rw [hboth]
      rcases Nat.lt_or_ge first.toNat second.toNat with hlt' | hge'
      · have hproduct : first.toNat * job.cpusMinPerNode.toNat ≤
            second.toNat * job.cpusMinPerNode.toNat := Nat.mul_le_mul_right _ hlt'.le
        have hsecond := @toNat_cpusTotal_raiseNodes second (job.raiseNodes first) (by omega)
        rw [hsecond, hcpus, hfirst.cpusMinPerNode_eq, max_eq_right hlt'.le, max_assoc,
          max_eq_right (min_le_min_right _ hproduct)]
      · rw [raiseNodes_eq_self (by omega), hcpus, max_eq_left hge']
    -- the first raise does nothing, and neither does the first count in the greater one
    · rw [raiseNodes_eq_self hge]
      rcases Nat.lt_or_ge job.nodes.toNat second.toNat with hlt' | hge'
      · have hsecond : Count.larger first second = second := by
          rw [← UInt64.toNat_inj]
          omega
        rw [hsecond]
      · rw [raiseNodes_eq_self hge', raiseNodes_eq_self (by omega)]

/-! ### The rules for graphics processors -/

lemma ceilDiv_le_self (a b : ℕ) : a ⌈/⌉ b ≤ a := by
  rcases Nat.eq_zero_or_pos b with rfl | hb
  · rw [ceilDiv_zero]
    exact Nat.zero_le a
  · exact (ceilDiv_le_iff_le_mul hb).2 (Nat.le_mul_of_pos_left a hb)

/-- A rounded quotient grows with its dividend and shrinks as its divisor grows, unless that is
zero. -/
lemma ceilDiv_le_ceilDiv {a a' b b' : ℕ} (ha : a ≤ a') (hb : b' ≤ b) (hpos : b = 0 ∨ 0 < b') :
    a ⌈/⌉ b ≤ a' ⌈/⌉ b' := by
  rcases hpos with rfl | hpos
  · rw [ceilDiv_zero]
    exact Nat.zero_le _
  · rw [ceilDiv_le_iff_le_mul (hpos.trans_le hb)]
    calc a ≤ a' := ha
      _ ≤ b' * (a' ⌈/⌉ b') := (ceilDiv_le_iff_le_mul hpos).1 le_rfl
      _ ≤ b * (a' ⌈/⌉ b') := Nat.mul_le_mul_right _ hb

lemma toNat_ofNat_gpuNeed (gpus : ℕ) (job : Job) :
    (UInt64.ofNat (job.gpuNeed gpus)).toNat = job.gpuNeed gpus :=
  UInt64.toNat_ofNat_of_lt' ((ceilDiv_le_self _ _).trans_lt (UInt64.toNat_lt_size _))

lemma toNat_ofNat_taskNeed (gpus : ℕ) (job : Job) :
    (UInt64.ofNat (job.taskNeed gpus)).toNat = job.taskNeed gpus :=
  UInt64.toNat_ofNat_of_lt' ((ceilDiv_le_self _ _).trans_lt (UInt64.toNat_lt_size _))

/-- A rounded quotient of counts is the count of the rounded quotient. -/
lemma ceilDiv_eq_ofNat (a : UInt64) {b : UInt64} (hb : 0 < b.toNat) :
    Count.ceilDiv a b = UInt64.ofNat (a.toNat ⌈/⌉ b.toNat) := by
  have hlt : a.toNat ⌈/⌉ b.toNat < UInt64.size :=
    (ceilDiv_le_self _ _).trans_lt (UInt64.toNat_lt_size a)
  rw [← UInt64.toNat_inj, Count.toNat_ceilDiv hb, UInt64.toNat_ofNat_of_lt' hlt]
  rfl

lemma toNat_pos {n : UInt64} (h : n ≠ 0) : 0 < n.toNat := by
  have hne : n.toNat ≠ 0 := fun h0 => h (UInt64.toNat_inj.1 (by simpa using h0))
  omega

/-- No node at all is asked for by a rule without need. -/
lemma eq_raiseNodes_of_eq_zero {need : ℕ} (job : Job) (h : need = 0) :
    job = job.raiseNodes (UInt64.ofNat need) := by
  rw [h]
  exact (raiseNodes_eq_self (Nat.zero_le _)).symm

lemma requireGpusPerJob_eq {gpus : UInt64} (hg : 0 < gpus.toNat) (job : Job) :
    job.requireGpusPerJob gpus = job.raiseNodes (UInt64.ofNat (job.gpuNeed gpus.toNat)) := by
  unfold requireGpusPerJob gpuNeed
  cases hk : job.gpusPerJob? with
  | none => exact eq_raiseNodes_of_eq_zero job (zero_ceilDiv _)
  | some n =>
    dsimp only [Option.getD_some]
    split
    · rename_i h0
      rw [h0]
      exact eq_raiseNodes_of_eq_zero job (zero_ceilDiv _)
    · rw [ceilDiv_eq_ofNat n hg]

lemma requireGpusPerTask_eq (gpus : UInt64) (job : Job) :
    job.requireGpusPerTask gpus = job.raiseNodes (UInt64.ofNat (job.taskNeed gpus.toNat)) := by
  -- where the rule is left out, its need divides by zero and is zero
  unfold requireGpusPerTask taskNeed
  cases hk : job.gpusPerTask? with
  | none =>
    refine eq_raiseNodes_of_eq_zero job ?_
    rw [Option.getD_none, show (0 : UInt64).toNat = 0 from rfl, Nat.div_zero, ceilDiv_zero]
  | some n =>
    dsimp only [Option.getD_some]
    rw [← UInt64.toNat_div]
    split
    · rename_i h0
      refine eq_raiseNodes_of_eq_zero job ?_
      rw [h0, UInt64.div_zero]
      exact ceilDiv_zero _
    · split
      · rename_i h0
        refine eq_raiseNodes_of_eq_zero job ?_
        rw [h0]
        exact ceilDiv_zero _
      · rename_i h0
        rw [ceilDiv_eq_ofNat job.tasks (toNat_pos h0)]

/-- The two rules for graphics processors raise the node count one after the other. -/
lemma requireGpus_eq {gpus : UInt64} (hg : 0 < gpus.toNat) (job : Job) :
    job.requireGpus gpus =
      (job.raiseNodes (UInt64.ofNat (job.gpuNeed gpus.toNat))).raiseNodes
        (UInt64.ofNat (job.taskNeed gpus.toNat)) := by
  have hraised := raised_raiseNodes (UInt64.ofNat (job.gpuNeed gpus.toNat)) job
  rw [requireGpus, requireGpusPerJob_eq hg, requireGpusPerTask_eq, hraised.taskNeed_eq]

/-! ### All rules for one job -/

/-- The slot rule, if the shape of a node asks for it. -/
def requireShapeSlots (shape : NodeShape) (job : Job) : Job :=
  match shape.slots with
  | none => job
  | some slots => job.requireSlots slots

/-- The rules for graphics processors, if a node has any. -/
def requireShapeGpus (shape : NodeShape) (job : Job) : Job :=
  match shape.gpuCount? with
  | none => job
  | some gpus => job.requireGpus gpus

/-- The job with the node count that it really needs. -/
def reconcile (shape : NodeShape) (job : Job) : Job :=
  (job.withSomeNode.requireShapeSlots shape).requireShapeGpus shape

variable (shape : NodeShape) (job : Job)

lemma toNat_nodes_requireShapeSlots :
    (job.requireShapeSlots shape).nodes.toNat =
      max job.nodes.toNat (job.slotNeed shape.slotNat) := by
  unfold requireShapeSlots NodeShape.slotNat
  cases shape.slots with
  | none =>
    have hzero : job.slotNeed (0 : UInt64).toNat = 0 := by
      rw [slotNeed, show (0 : UInt64).toNat = 0 from rfl, Nat.zero_div, Nat.mul_zero, ceilDiv_zero]
    rw [Option.getD_none, hzero]
    exact (max_eq_left (Nat.zero_le _)).symm
  | some slots => exact toNat_nodes_requireSlots slots job

lemma raised_requireShapeSlots : Raised job (job.requireShapeSlots shape) := by
  unfold requireShapeSlots
  split
  · exact Raised.refl job
  · exact raised_requireSlots _ job

lemma slotNeed_requireShapeSlots (slots : ℕ) :
    (job.requireShapeSlots shape).slotNeed slots = job.slotNeed slots := by
  unfold requireShapeSlots
  split
  · rfl
  · exact slotNeed_requireSlots slots _ job

lemma cpusTotal_requireShapeSlots :
    (job.requireShapeSlots shape).cpusTotal = job.cpusTotal := by
  unfold requireShapeSlots requireSlots
  split
  · rfl
  · split <;> rfl

lemma toNat_larger_needs (gpus : ℕ) :
    (Count.larger (UInt64.ofNat (job.gpuNeed gpus)) (UInt64.ofNat (job.taskNeed gpus))).toNat =
      max (job.gpuNeed gpus) (job.taskNeed gpus) := by
  rw [Count.toNat_larger, toNat_ofNat_gpuNeed, toNat_ofNat_taskNeed]

/-- Both rules for graphics processors together are a raise to the greater of their needs. -/
lemma requireShapeGpus_eq :
    job.requireShapeGpus shape =
      job.raiseNodes (Count.larger (UInt64.ofNat (job.gpuNeed shape.gpuNat))
        (UInt64.ofNat (job.taskNeed shape.gpuNat))) := by
  unfold requireShapeGpus
  rcases shape.gpuCount?_cases with ⟨hnone, hzero⟩ | ⟨gpus, hsome, heq, hpos⟩
  -- without graphics processors the rules ask for nothing, and raising to nothing does nothing
  · have hneeds := toNat_larger_needs job 0
    rw [taskNeed, Nat.zero_div, gpuNeed, ceilDiv_zero, ceilDiv_zero] at hneeds
    rw [hnone, hzero, taskNeed, Nat.zero_div, gpuNeed, ceilDiv_zero, ceilDiv_zero]
    exact (raiseNodes_eq_self (by omega)).symm
  · rw [hsome, ← heq, ← raiseNodes_raiseNodes]
    exact requireGpus_eq hpos job

lemma toNat_nodes_requireShapeGpus :
    (job.requireShapeGpus shape).nodes.toNat =
      max job.nodes.toNat (max (job.gpuNeed shape.gpuNat) (job.taskNeed shape.gpuNat)) := by
  rw [requireShapeGpus_eq, toNat_nodes_raiseNodes, toNat_larger_needs]

lemma raised_requireShapeGpus : Raised job (job.requireShapeGpus shape) := by
  rw [requireShapeGpus_eq]
  exact raised_raiseNodes _ _

/-- The final node count is the greatest of what is reported and what the rules ask for. -/
lemma toNat_nodes_reconcile :
    (job.reconcile shape).nodes.toNat =
      max (max (max 1 job.nodes.toNat) (job.slotNeed shape.slotNat))
        (max (job.gpuNeed shape.gpuNat) (job.taskNeed shape.gpuNat)) := by
  have hraised := (raised_withSomeNode job).trans (raised_requireShapeSlots shape job.withSomeNode)
  rw [reconcile, toNat_nodes_requireShapeGpus, toNat_nodes_requireShapeSlots,
    toNat_nodes_withSomeNode, slotNeed_withSomeNode, hraised.gpuNeed_eq, hraised.taskNeed_eq]

lemma raised_reconcile : Raised job (job.reconcile shape) :=
  ((raised_withSomeNode job).trans (raised_requireShapeSlots shape _)).trans
    (raised_requireShapeGpus shape _)

end Job

namespace Requirement

variable (shape : NodeShape) (jobs : List Job)

/-! ### The passes over a list -/

lemma value_requireShapeSlots :
    (requireShapeSlots shape jobs).value = jobs.map (Job.requireShapeSlots shape) := by
  unfold requireShapeSlots Job.requireShapeSlots
  cases shape.slots with
  | none => exact (List.map_id' jobs).symm
  | some slots => rfl

lemma value_requireGpus :
    (requireGpus shape jobs).value = jobs.map (Job.requireShapeGpus shape) := by
  unfold requireGpus Job.requireShapeGpus
  cases shape.gpuCount? with
  | none => exact (List.map_id' jobs).symm
  | some gpus => rfl

/-- The passes treat every job of a list by itself. -/
lemma value_reconcile :
    (reconcile shape jobs).value = jobs.map (Job.reconcile shape) := by
  calc (reconcile shape jobs).value
      = (requireGpus shape (requireShapeSlots shape (jobs.map Job.withSomeNode)).value).value := rfl
    _ = jobs.map (Job.reconcile shape) := by
      rw [value_requireGpus, value_requireShapeSlots, List.map_map, List.map_map]
      rfl

end Requirement

end NodeDemand
