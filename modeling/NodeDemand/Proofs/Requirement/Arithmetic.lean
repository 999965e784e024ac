/-
# The passes compute exactly

The operations of machine words can fail: a divisor may be zero, a difference negative, a rounded
quotient too large.  Here the passes are stated over an arithmetic whose operations say so
(`Arithmetic`), which is run in two ways: with words of 64 bits (`words`), where products stop at
the greatest count, and with natural numbers (`naturals`), where nothing has a bound.

* `words_demand` says that no operation on words fails, and that the outcome is the one of
  `NodeDemand.Requirement`;
* `Tracks.demand` says that the run with natural numbers follows the one with words: the node
  counts are equal, and the CPU counts are equal as far as they are counts;
* `reconcile_exact` puts both together.
-/
import NodeDemand.Proofs.Requirement.Needs

namespace NodeDemand

/-- Why an operation has no result. -/
inductive Trap where
  /-- The divisor is zero. -/
  | zeroDivisor
  /-- The result is below zero. -/
  | underflow
  /-- The result is too large. -/
  | overflow
deriving DecidableEq, Repr

/-- The operations by which node counts are computed. -/
structure Arithmetic (ν : Type) where
  /-- A count as a number. -/
  ofCount : UInt64 → ν
  /-- A signed word as a number. -/
  ofSigned : Int64 → Except Trap ν
  /-- Whether a number is no greater than another. -/
  le : ν → ν → Bool
  /-- The remainder of a division. -/
  rem : ν → ν → Except Trap ν
  /-- The difference of two numbers. -/
  sub : ν → ν → Except Trap ν
  /-- The quotient of two numbers, rounded down. -/
  quot : ν → ν → Except Trap ν
  /-- The quotient of two numbers, rounded up. -/
  ceilQuot : ν → ν → Except Trap ν
  /-- The product of two numbers. -/
  mul : ν → ν → ν

/-- What a job asks for: nodes and CPUs. -/
structure Demand (ν : Type) where
  /-- The number of nodes. -/
  nodes : ν
  /-- The number of CPUs in all. -/
  cpus : ν

namespace Arithmetic

/-! ### The passes -/

section Passes

variable {ν : Type} (A : Arithmetic ν)

/-- The greater of two numbers. -/
def larger (a b : ν) : ν := if A.le a b then b else a

/-- At least so many nodes; if that is more than before, also the least CPU count on each. -/
def raise (job : Job) (least : ν) (d : Demand ν) : Demand ν :=
  if A.le least d.nodes then d
  else ⟨least, A.larger d.cpus (A.mul least (A.ofCount job.cpusMinPerNode))⟩

/-- What a job reports, with one node at least. -/
def reported (job : Job) : Demand ν :=
  ⟨A.ofCount (if job.nodes = 0 then 1 else job.nodes), A.ofCount job.cpusTotal⟩

/-- Enough nodes for the CPUs in whole chunks of the least CPU count, if a node has room for one. -/
def placeChunks (slots : UInt64) (job : Job) (d : Demand ν) : Except Trap (Demand ν) :=
  if job.cpusMinPerNode = 0 ∨ slots < job.cpusMinPerNode then return d
  else do
    let odd ← A.rem (A.ofCount slots) (A.ofCount job.cpusMinPerNode)
    let usable ← A.sub (A.ofCount slots) odd
    let least ← A.ceilQuot d.cpus usable
    return { d with nodes := A.larger d.nodes least }

/-- Enough nodes for the graphics processors that the job asks for in all. -/
def placeGpus (gpus : ν) (job : Job) (d : Demand ν) : Except Trap (Demand ν) :=
  match job.gpusPerJob? with
  | none => return d
  | some n =>
    if n = 0 then return d
    else do
      let least ← A.ceilQuot (A.ofCount n) gpus
      return A.raise job least d

/-- Enough nodes for the tasks with their graphics processors, if a node has room for one. -/
def placeTasks (gpus : ν) (job : Job) (d : Demand ν) : Except Trap (Demand ν) :=
  match job.gpusPerTask? with
  | none => return d
  | some n =>
    if n = 0 then return d
    else do
      let room ← A.quot gpus (A.ofCount n)
      if A.le room (A.ofCount 0) then return d
      else do
        let least ← A.ceilQuot (A.ofCount job.tasks) room
        return A.raise job least d

/-- The slot pass, if the shape of a node asks for it. -/
def slotPass (shape : NodeShape) (job : Job) (d : Demand ν) : Except Trap (Demand ν) :=
  match shape.slots with
  | none => return d
  | some slots => A.placeChunks slots job d

/-- The pass over graphics processors, if a node has any. -/
def gpuPass (shape : NodeShape) (job : Job) (d : Demand ν) : Except Trap (Demand ν) :=
  if 0 < shape.gpus then do
    let gpus ← A.ofSigned shape.gpus
    let d ← A.placeGpus gpus job d
    A.placeTasks gpus job d
  else return d

/-- What a job really asks for. -/
def demand (shape : NodeShape) (job : Job) : Except Trap (Demand ν) := do
  let d ← A.slotPass shape job (A.reported job)
  A.gpuPass shape job d

end Passes

/-! ### Words and natural numbers -/

/-- The arithmetic of 64-bit words.  Only a product that is too large has a result all the same. -/
def words : Arithmetic UInt64 where
  ofCount n := n
  ofSigned n := if n < 0 then .error .underflow else .ok (UInt64.ofNat n.toInt.toNat)
  le a b := decide (a ≤ b)
  rem a b := if b = 0 then .error .zeroDivisor else .ok (a % b)
  sub a b := if a < b then .error .underflow else .ok (a - b)
  quot a b := if b = 0 then .error .zeroDivisor else .ok (a / b)
  ceilQuot a b :=
    if b = 0 then .error .zeroDivisor
    else if a % b = 0 then .ok (a / b)
    else if a / b = Count.greatest then .error .overflow
    else .ok (a / b + 1)
  mul := Count.mul

/-- The arithmetic of natural numbers. -/
def naturals : Arithmetic ℕ where
  ofCount := UInt64.toNat
  ofSigned n := if n.toInt < 0 then .error .underflow else .ok n.toInt.toNat
  le a b := decide (a ≤ b)
  rem a b := if b = 0 then .error .zeroDivisor else .ok (a % b)
  sub a b := if a < b then .error .underflow else .ok (a - b)
  quot a b := if b = 0 then .error .zeroDivisor else .ok (a / b)
  ceilQuot a b := if b = 0 then .error .zeroDivisor else .ok (a ⌈/⌉ b)
  mul a b := a * b

/-! ### Words do not fail where their divisors are positive -/

section Words

variable {a b : UInt64}

lemma ne_zero_of_pos (hb : 0 < b.toNat) : b ≠ 0 := by
  rintro rfl
  exact absurd hb (by decide)

lemma words_rem (hb : 0 < b.toNat) : words.rem a b = .ok (a % b) := if_neg (ne_zero_of_pos hb)

lemma words_quot (hb : 0 < b.toNat) : words.quot a b = .ok (a / b) := if_neg (ne_zero_of_pos hb)

lemma words_sub (h : b.toNat ≤ a.toNat) : words.sub a b = .ok (a - b) := by
  refine if_neg ?_
  rw [UInt64.lt_iff_toNat_lt]
  omega

/-- A quotient that is the greatest count leaves no remainder, so rounding up does not fail. -/
lemma words_ceilQuot (hb : 0 < b.toNat) : words.ceilQuot a b = .ok (Count.ceilDiv a b) := by
  have hquot : a % b ≠ 0 → a / b ≠ Count.greatest := by
    intro hrem hgreatest
    have hdiv := congrArg UInt64.toNat hgreatest
    rw [UInt64.toNat_div, Count.toNat_greatest] at hdiv
    have ha := a.toNat_lt_size
    have hsize : UInt64.size = 2 ^ 64 := rfl
    rcases Nat.lt_or_eq_of_le (Nat.succ_le_of_lt hb) with hlt | hone
    · have hhalf : a.toNat / b.toNat ≤ a.toNat / 2 := Nat.div_le_div_left hlt (by decide)
      omega
    · refine hrem (UInt64.toNat_inj.1 ?_)
      rw [UInt64.toNat_mod, ← hone, Nat.mod_one]
      rfl
  simp only [words, Count.ceilDiv, if_neg (ne_zero_of_pos hb)]
  split
  · rfl
  · rename_i hrem
    rw [if_neg (hquot hrem)]

end Words

/-- What a job asks for as it stands. -/
def ofJob (job : Job) : Demand UInt64 := ⟨job.nodes, job.cpusTotal⟩

lemma words_reported (job : Job) : words.reported job = ofJob job.withSomeNode := by
  rw [reported, ofJob, Job.withSomeNode]
  split <;> rfl

lemma words_raise (job : Job) (least : UInt64) :
    words.raise job least (ofJob job) = ofJob (job.raiseNodes least) := by
  rw [raise, Job.raiseNodes]
  by_cases h : least ≤ job.nodes
  · rw [if_pos h]
    exact if_pos (decide_eq_true h)
  · rw [if_neg h]
    refine (if_neg ?_).trans ?_
    · simpa [words, ofJob] using h
    · simp only [ofJob, larger, words, Count.larger, decide_eq_true_eq]

lemma words_larger (a b : UInt64) : words.larger a b = Count.larger a b := by
  simp only [larger, words, Count.larger, decide_eq_true_eq]

lemma words_placeChunks (slots : UInt64) (job : Job) :
    words.placeChunks slots job (ofJob job) = .ok (ofJob (job.requireSlots slots)) := by
  rw [placeChunks, Job.requireSlots]
  by_cases hfits : job.fitsSlots slots = true
  · obtain ⟨hm, hle⟩ := Job.fitsSlots_iff.1 hfits
    have hguard : ¬ (job.cpusMinPerNode = 0 ∨ slots < job.cpusMinPerNode) := by
      simpa [Job.fitsSlots] using hfits
    have hodd : (slots % job.cpusMinPerNode).toNat ≤ slots.toNat := by
      rw [UInt64.toNat_mod]
      exact Nat.mod_le _ _
    have hroom : 0 < (job.usableSlots slots).toNat := by
      rw [Job.toNat_usableSlots]
      exact Nat.mul_pos hm (Nat.div_pos hle hm)
    have hrem : words.rem (words.ofCount slots) (words.ofCount job.cpusMinPerNode) =
        .ok (slots % job.cpusMinPerNode) := words_rem hm
    have hsub : words.sub (words.ofCount slots) (slots % job.cpusMinPerNode) =
        .ok (job.usableSlots slots) := words_sub hodd
    have hceil : words.ceilQuot (ofJob job).cpus (job.usableSlots slots) =
        .ok (Count.ceilDiv job.cpusTotal (job.usableSlots slots)) := words_ceilQuot hroom
    rw [if_neg hguard, if_pos hfits]
    simp only [hrem, hsub, hceil, words_larger, bind, Except.bind]
    rfl
  · have hguard : job.cpusMinPerNode = 0 ∨ slots < job.cpusMinPerNode := by
      simpa [Job.fitsSlots, imp_iff_not_or] using hfits
    rw [if_pos hguard, if_neg hfits]
    rfl

lemma words_placeGpus {gpus : UInt64} (hg : 0 < gpus.toNat) (job : Job) :
    words.placeGpus gpus job (ofJob job) = .ok (ofJob (job.requireGpusPerJob gpus)) := by
  rw [placeGpus, Job.requireGpusPerJob]
  cases job.gpusPerJob? with
  | none => rfl
  | some n =>
    dsimp only
    split
    · rfl
    · have hceil : words.ceilQuot (words.ofCount n) gpus = .ok (Count.ceilDiv n gpus) :=
        words_ceilQuot hg
      simp only [hceil, words_raise, bind, Except.bind]
      rfl

lemma words_placeTasks (gpus : UInt64) (job : Job) :
    words.placeTasks gpus job (ofJob job) = .ok (ofJob (job.requireGpusPerTask gpus)) := by
  rw [placeTasks, Job.requireGpusPerTask]
  cases job.gpusPerTask? with
  | none => rfl
  | some n =>
    dsimp only
    split
    · rfl
    · rename_i hn
      have hquot : words.quot gpus (words.ofCount n) = .ok (gpus / n) :=
        words_quot (Job.toNat_pos hn)
      have hle : words.le (gpus / n) (words.ofCount 0) = true ↔ gpus / n = 0 := by
        simp [words]
      simp only [hquot, bind, Except.bind]
      by_cases hroom : gpus / n = 0
      · rw [if_pos (hle.2 hroom), if_pos hroom]
        rfl
      · have hceil : words.ceilQuot (words.ofCount job.tasks) (gpus / n) =
            .ok (Count.ceilDiv job.tasks (gpus / n)) := words_ceilQuot (Job.toNat_pos hroom)
        rw [if_neg (mt hle.1 hroom), if_neg hroom]
        simp only [hceil, words_raise]
        rfl

section Raised

variable {ν : Type} (A : Arithmetic ν) {before after : Job} (h : Job.Raised before after)
include h

/-- The rules read nothing of a job that a rule changes. -/
lemma slotPass_of_raised (shape : NodeShape) :
    A.slotPass shape before = A.slotPass shape after := by
  rw [h.eq_with]
  rfl

lemma placeTasks_of_raised (gpus : ν) : A.placeTasks gpus before = A.placeTasks gpus after := by
  rw [h.eq_with]
  rfl

lemma gpuPass_of_raised (shape : NodeShape) : A.gpuPass shape before = A.gpuPass shape after := by
  rw [h.eq_with]
  rfl

end Raised

lemma words_slotPass (shape : NodeShape) (job : Job) :
    words.slotPass shape job (ofJob job) = .ok (ofJob (job.requireShapeSlots shape)) := by
  rw [slotPass, Job.requireShapeSlots]
  cases shape.slots with
  | none => rfl
  | some slots => exact words_placeChunks slots job

lemma words_gpuPass (shape : NodeShape) (job : Job) :
    words.gpuPass shape job (ofJob job) = .ok (ofJob (job.requireShapeGpus shape)) := by
  rw [gpuPass, Job.requireShapeGpus]
  rcases shape.gpuCount?_cases with ⟨hnone, -⟩ | ⟨gpus, hsome, -, hpos⟩
  · have hguard : ¬ 0 < shape.gpus := by
      intro h
      rw [NodeShape.gpuCount?, if_pos h] at hnone
      exact absurd hnone (by simp)
    rw [if_neg hguard, hnone]
    rfl
  · have hguard : 0 < shape.gpus := by
      by_contra h
      rw [NodeShape.gpuCount?, if_neg h] at hsome
      exact absurd hsome (by simp)
    have hsigned : words.ofSigned shape.gpus = .ok gpus := by
      have hnot : ¬ shape.gpus < 0 := Int64.not_lt.2 (Int64.le_of_lt hguard)
      rw [NodeShape.gpuCount?, if_pos hguard, Option.some.injEq] at hsome
      rw [← hsome]
      exact if_neg hnot
    have hraised : Job.Raised job (job.requireGpusPerJob gpus) := by
      rw [Job.requireGpusPerJob_eq hpos]
      exact Job.raised_raiseNodes _ job
    have htasks : words.placeTasks gpus job (ofJob (job.requireGpusPerJob gpus)) =
        .ok (ofJob (job.requireGpus gpus)) := by
      rw [placeTasks_of_raised words hraised, words_placeTasks, Job.requireGpus]
    rw [if_pos hguard, hsome]
    simp only [hsigned, words_placeGpus hpos, htasks, bind, Except.bind]

/-- **No operation on words fails**, and the outcome is what the passes compute. -/
theorem words_demand (shape : NodeShape) (job : Job) :
    words.demand shape job = .ok (ofJob (job.reconcile shape)) := by
  have hsome := Job.raised_withSomeNode job
  have hslots := hsome.trans (Job.raised_requireShapeSlots shape job.withSomeNode)
  rw [demand, words_reported, slotPass_of_raised words hsome, words_slotPass,
    gpuPass_of_raised words hslots]
  exact words_gpuPass shape _

/-! ### Words follow natural numbers -/

/-- Two runs fail alike, or have related results. -/
inductive Alike {α β : Type} (R : α → β → Prop) : Except Trap α → Except Trap β → Prop
  | ok {a : α} {b : β} (h : R a b) : Alike R (.ok a) (.ok b)
  | error (trap : Trap) : Alike R (.error trap) (.error trap)

namespace Alike

variable {α α' β β' : Type} {R : α → β → Prop} {S : α' → β' → Prop}

lemma bind {x : Except Trap α} {y : Except Trap β} {f : α → Except Trap α'}
    {g : β → Except Trap β'} (h : Alike R x y) (hnext : ∀ a b, R a b → Alike S (f a) (g b)) :
    Alike S (x >>= f) (y >>= g) := by
  cases h with
  | ok h => exact hnext _ _ h
  | error trap => exact .error trap

lemma exists_of_ok {a : α} {y : Except Trap β} (h : Alike R (.ok a) y) :
    ∃ b, y = .ok b ∧ R a b := by
  cases h with
  | ok h => exact ⟨_, rfl, h⟩

end Alike

/-- A word holds a natural number. -/
def Holds (w : UInt64) (n : ℕ) : Prop := w.toNat = n

section Operations

variable {a b : UInt64} {m n : ℕ}

lemma holds_ofCount (n : UInt64) : Holds (words.ofCount n) (naturals.ofCount n) := rfl

lemma Holds.eq_zero_iff (h : Holds a m) : a = 0 ↔ m = 0 := by
  rw [← h, ← UInt64.toNat_inj]
  rfl

lemma le_of_holds (ha : Holds a m) (hb : Holds b n) : words.le a b = naturals.le m n := by
  rw [← ha, ← hb]
  exact decide_eq_decide.2 UInt64.le_iff_toNat_le

lemma holds_larger (ha : Holds a m) (hb : Holds b n) :
    Holds (words.larger a b) (naturals.larger m n) := by
  rw [larger, larger, le_of_holds ha hb]
  split
  · exact hb
  · exact ha

lemma alike_rem (ha : Holds a m) (hb : Holds b n) :
    Alike Holds (words.rem a b) (naturals.rem m n) := by
  simp only [words, naturals, hb.eq_zero_iff]
  split
  · exact .error _
  · exact .ok (by rw [Holds, UInt64.toNat_mod, ha, hb])

lemma alike_quot (ha : Holds a m) (hb : Holds b n) :
    Alike Holds (words.quot a b) (naturals.quot m n) := by
  simp only [words, naturals, hb.eq_zero_iff]
  split
  · exact .error _
  · exact .ok (by rw [Holds, UInt64.toNat_div, ha, hb])

lemma alike_sub (ha : Holds a m) (hb : Holds b n) :
    Alike Holds (words.sub a b) (naturals.sub m n) := by
  have hlt : a < b ↔ m < n := by rw [← ha, ← hb, UInt64.lt_iff_toNat_lt]
  simp only [words, naturals, hlt]
  split
  · exact .error _
  · rename_i hge
    have hle : b ≤ a := by
      rw [UInt64.le_iff_toNat_le, ha, hb]
      omega
    exact .ok (by rw [Holds, UInt64.toNat_sub_of_le _ _ hle, ha, hb])

lemma alike_ceilQuot (ha : Holds a m) (hb : Holds b n) :
    Alike Holds (words.ceilQuot a b) (naturals.ceilQuot m n) := by
  rcases Nat.eq_zero_or_pos n with hzero | hpos
  · have hword := hb.eq_zero_iff.2 hzero
    simp only [words, naturals, hword, hzero, if_true]
    exact .error _
  · rw [← hb] at hpos
    rw [words_ceilQuot hpos, ← ha, ← hb, naturals]
    simp only [if_neg (Nat.ne_of_gt hpos)]
    exact .ok (by rw [Holds, Count.toNat_ceilDiv hpos, Nat.ceilDiv_eq_add_pred_div])

lemma alike_ofSigned (n : Int64) : Alike Holds (words.ofSigned n) (naturals.ofSigned n) := by
  have hlt : n < 0 ↔ n.toInt < 0 := Int64.lt_iff_toInt_lt
  simp only [words, naturals, hlt]
  split
  · exact .error _
  · refine .ok (UInt64.toNat_ofNat_of_lt' ?_)
    have hbound := n.toInt_lt
    have hsize : UInt64.size = 2 ^ 64 := rfl
    omega

end Operations

/-- The words of a demand hold the natural numbers of another. -/
structure Exact (w : Demand UInt64) (d : Demand ℕ) : Prop where
  nodes : Holds w.nodes d.nodes
  cpus : Holds w.cpus d.cpus

/-- The node counts are equal, and the CPU counts are equal or stop at the greatest count. -/
structure Tracks (w : Demand UInt64) (d : Demand ℕ) : Prop where
  nodes : Holds w.nodes d.nodes
  cpus : w.cpus.toNat = min d.cpus (UInt64.size - 1)

variable {w : Demand UInt64} {d : Demand ℕ}

lemma Exact.tracks (h : Exact w d) : Tracks w d := by
  refine ⟨h.nodes, ?_⟩
  have hlt := w.cpus.toNat_lt_size
  rw [← h.cpus]
  omega

lemma exact_reported (job : Job) : Exact (words.reported job) (naturals.reported job) := ⟨rfl, rfl⟩

/-- The slot pass needs no product, so nothing stops at the greatest count. -/
lemma Exact.slotPass (h : Exact w d) (shape : NodeShape) (job : Job) :
    Alike Exact (words.slotPass shape job w) (naturals.slotPass shape job d) := by
  unfold Arithmetic.slotPass placeChunks
  cases shape.slots with
  | none => exact .ok h
  | some slots =>
    dsimp only
    split
    · exact .ok h
    · refine (alike_rem (holds_ofCount _) (holds_ofCount _)).bind fun odd odd' hodd => ?_
      refine (alike_sub (holds_ofCount _) hodd).bind fun usable usable' husable => ?_
      refine (alike_ceilQuot h.cpus husable).bind fun least least' hleast => ?_
      exact .ok ⟨holds_larger h.nodes hleast, h.cpus⟩

lemma naturals_larger (a b : ℕ) : naturals.larger a b = max a b := by
  simp only [larger, naturals, decide_eq_true_eq, max_def]

namespace Tracks

/-- A product that is too large stops at the greatest count, and so does the CPU count then. -/
lemma raise (h : Tracks w d) {least : UInt64} {least' : ℕ} (hleast : Holds least least')
    (job : Job) : Tracks (words.raise job least w) (naturals.raise job least' d) := by
  rw [Arithmetic.raise, Arithmetic.raise, le_of_holds hleast h.nodes]
  split
  · exact h
  · refine ⟨hleast, ?_⟩
    have hword : (words.mul least (words.ofCount job.cpusMinPerNode)).toNat =
        min (least' * job.cpusMinPerNode.toNat) (UInt64.size - 1) := by
      rw [← hleast]
      exact Count.toNat_mul least job.cpusMinPerNode
    have hnatural : naturals.mul least' (naturals.ofCount job.cpusMinPerNode) =
        least' * job.cpusMinPerNode.toNat := rfl
    rw [words_larger, Count.toNat_larger, hword, naturals_larger, hnatural, h.cpus]
    dsimp only
    omega

variable {gpus : UInt64} {gpus' : ℕ}

lemma placeGpus (h : Tracks w d) (hgpus : Holds gpus gpus') (job : Job) :
    Alike Tracks (words.placeGpus gpus job w) (naturals.placeGpus gpus' job d) := by
  unfold Arithmetic.placeGpus
  cases job.gpusPerJob? with
  | none => exact .ok h
  | some n =>
    dsimp only
    split
    · exact .ok h
    · refine (alike_ceilQuot (holds_ofCount n) hgpus).bind fun least least' hleast => ?_
      exact .ok (h.raise hleast job)

lemma placeTasks (h : Tracks w d) (hgpus : Holds gpus gpus') (job : Job) :
    Alike Tracks (words.placeTasks gpus job w) (naturals.placeTasks gpus' job d) := by
  unfold Arithmetic.placeTasks
  cases job.gpusPerTask? with
  | none => exact .ok h
  | some n =>
    dsimp only
    split
    · exact .ok h
    · refine (alike_quot hgpus (holds_ofCount n)).bind fun room room' hroom => ?_
      rw [le_of_holds hroom (holds_ofCount 0)]
      split
      · exact .ok h
      · refine (alike_ceilQuot (holds_ofCount job.tasks) hroom).bind fun least least' hleast => ?_
        exact .ok (h.raise hleast job)

lemma gpuPass (h : Tracks w d) (shape : NodeShape) (job : Job) :
    Alike Tracks (words.gpuPass shape job w) (naturals.gpuPass shape job d) := by
  unfold Arithmetic.gpuPass
  split
  · refine (alike_ofSigned shape.gpus).bind fun gpus gpus' hgpus => ?_
    refine (h.placeGpus hgpus job).bind fun w' d' h' => ?_
    exact h'.placeTasks hgpus job
  · exact .ok h

/-- **Words follow natural numbers.**  A run with words and one with natural numbers fail alike or
have equal node counts, and CPU counts that differ only where they stop at the greatest count. -/
theorem demand (shape : NodeShape) (job : Job) :
    Alike Tracks (words.demand shape job) (naturals.demand shape job) := by
  refine ((exact_reported job).slotPass shape job).bind fun w d h => ?_
  exact h.tracks.gpuPass shape job

end Tracks

/-- **The passes compute exactly.**  For every job of a list, no operation on words fails on the way
to what the passes compute, and neither does one on natural numbers.  The node count is the one in
natural numbers, and the CPU count is the one in natural numbers or, if that is no count, the
greatest count. -/
theorem reconcile_exact (shape : NodeShape) (jobs : List Job) :
    List.Forall₂
      (fun before after : Job =>
        words.demand shape before = .ok ⟨after.nodes, after.cpusTotal⟩ ∧
          ∃ exact : Demand ℕ, naturals.demand shape before = .ok exact ∧
            after.nodes.toNat = exact.nodes ∧
            after.cpusTotal.toNat = min exact.cpus (UInt64.size - 1))
      jobs (Requirement.reconcile shape jobs).value := by
  rw [Requirement.value_reconcile, List.forall₂_map_right_iff, List.forall₂_same]
  intro job _
  have hwords := words_demand shape job
  have hsame := Tracks.demand shape job
  rw [hwords] at hsame
  obtain ⟨exact, hnaturals, htracks⟩ := hsame.exists_of_ok
  exact ⟨hwords, exact, hnaturals, htracks.nodes, htracks.cpus⟩

end Arithmetic

end NodeDemand
