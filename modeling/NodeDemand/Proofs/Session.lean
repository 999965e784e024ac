/-
# What a session keeps

A session adds jobs to a list, raises their counts and selects among them, in any order and with
settings of its own at each step.  `runSession_selected` says what holds after every session: the
list is a selection, in the order of arrival, of the jobs that have arrived, and each of them has
grown at most as far as its node count accounts for (`Job.Grown`).

A step without arrivals leaves a selection of the list before it, so the step lemma is one for all
steps (`selected_next`).  The run lemma follows as selections of selections are selections.
-/
import NodeDemand.Proofs.Candidates
import NodeDemand.Session
import Mathlib.Data.List.Forall2

namespace NodeDemand

/-! ### Jobs that grow -/

namespace Job

/-- The job `now` is the job `arrived` but for the node count and the CPU count.  Both may be
greater, the CPU count only if the node count is, and by no more than it takes to have the least
CPU count on every node. -/
structure Grown (arrived now : Job) : Prop extends Raised arrived now where
  /-- The CPU count grows only with the node count. -/
  cpus_eq : now.nodes = arrived.nodes → now.cpusTotal = arrived.cpusTotal
  /-- The CPU count grows to the least CPU count on every node at most. -/
  cpus_le_max : now.cpusTotal.toNat ≤ max arrived.cpusTotal.toNat
    (min (now.nodes.toNat * arrived.cpusMinPerNode.toNat) (UInt64.size - 1))

namespace Grown

variable {a b c : Job}

lemma of_cpusTotal_eq (h : Raised a b) (hcpus : b.cpusTotal = a.cpusTotal) : Grown a b where
  toRaised := h
  cpus_eq _ := hcpus
  cpus_le_max := by
    rw [hcpus]
    exact le_max_left _ _

lemma refl (a : Job) : Grown a a := of_cpusTotal_eq (Raised.refl a) rfl

lemma trans (hab : Grown a b) (hbc : Grown b c) : Grown a c where
  toRaised := hab.toRaised.trans hbc.toRaised
  cpus_eq := by
    intro hnodes
    -- the node count in between is between two equal ones
    have hmiddle : b.nodes = a.nodes := by
      have hfirst := hab.nodes_le
      have hsecond := hbc.nodes_le
      rw [hnodes] at hsecond
      exact UInt64.toNat_inj.1 (le_antisymm hsecond hfirst)
    rw [hbc.cpus_eq (hnodes.trans hmiddle.symm), hab.cpus_eq hmiddle]
  cpus_le_max := by
    have hproduct : b.nodes.toNat * a.cpusMinPerNode.toNat ≤
        c.nodes.toNat * a.cpusMinPerNode.toNat := Nat.mul_le_mul_right _ hbc.nodes_le
    have hfirst := hab.cpus_le_max
    have hsecond := hbc.cpus_le_max
    rw [hab.cpusMinPerNode_eq] at hsecond
    omega

end Grown

lemma grown_raiseNodes (least : UInt64) (job : Job) : Grown job (job.raiseNodes least) := by
  have hraised := raised_raiseNodes least job
  have hnodes := toNat_nodes_raiseNodes least job
  rcases Nat.lt_or_ge job.nodes.toNat least.toNat with hlt | hge
  · refine ⟨hraised, ?_, ?_⟩
    · intro heq
      rw [heq] at hnodes
      omega
    · rw [toNat_cpusTotal_raiseNodes hlt, hnodes, max_eq_right hlt.le]
  · rw [raiseNodes_eq_self hge]
    exact Grown.refl job

variable (shape : NodeShape) (job : Job)

lemma grown_withSomeNode : Grown job job.withSomeNode :=
  Grown.of_cpusTotal_eq (raised_withSomeNode job) (cpusTotal_withSomeNode job)

lemma grown_requireShapeSlots : Grown job (job.requireShapeSlots shape) :=
  Grown.of_cpusTotal_eq (raised_requireShapeSlots shape job) (cpusTotal_requireShapeSlots shape job)

lemma grown_requireShapeGpus : Grown job (job.requireShapeGpus shape) := by
  rw [requireShapeGpus_eq]
  exact grown_raiseNodes _ _

lemma grown_reconcile : Grown job (job.reconcile shape) :=
  ((grown_withSomeNode job).trans (grown_requireShapeSlots shape _)).trans
    (grown_requireShapeGpus shape _)

end Job

/-! ### Selections -/

/-- The jobs of a list have arrived in this order, perhaps among others, and have grown since. -/
def Selected : List Job → List Job → Prop :=
  List.SublistForall₂ fun now arrived => Job.Grown arrived now

instance : Std.Refl fun now arrived : Job => Job.Grown arrived now := ⟨Job.Grown.refl⟩

instance : IsTrans Job fun now arrived : Job => Job.Grown arrived now :=
  ⟨fun _ _ _ hab hbc => hbc.trans hab⟩

namespace Selected

variable {jobs now arrived : List Job}

lemma refl (jobs : List Job) : Selected jobs jobs := (List.Sublist.refl jobs).sublistForall₂

lemma trans (h : Selected now jobs) (h' : Selected jobs arrived) : Selected now arrived :=
  List.SublistForall₂.is_trans.trans _ _ _ h h'

lemma iff_exists : Selected now arrived ↔
    ∃ kept, kept.Sublist arrived ∧ List.Forall₂ Job.Grown kept now := by
  rw [Selected, List.sublistForall₂_iff]
  constructor
  · rintro ⟨kept, hgrown, hkept⟩
    exact ⟨kept, hkept, hgrown.flip⟩
  · rintro ⟨kept, hkept, hgrown⟩
    exact ⟨kept, hgrown.flip, hkept⟩

lemma append (h : Selected now arrived) (more : List Job) :
    Selected (now ++ more) (arrived ++ more) := by
  rw [iff_exists] at h ⊢
  obtain ⟨kept, hkept, hgrown⟩ := h
  refine ⟨kept ++ more, hkept.append_right more, List.rel_append hgrown ?_⟩
  exact List.forall₂_same.2 fun job _ => Job.Grown.refl job

lemma of_sublist (h : now.Sublist arrived) : Selected now arrived := h.sublistForall₂

lemma of_map {f : Job → Job} (h : ∀ job, Job.Grown job (f job)) (jobs : List Job) :
    Selected (jobs.map f) jobs := by
  rw [iff_exists]
  refine ⟨jobs, List.Sublist.refl jobs, ?_⟩
  rw [List.forall₂_map_right_iff]
  exact List.forall₂_same.2 fun job _ => h job

end Selected

/-! ### Sessions -/

/-- The jobs that a step adds to a list; a table that is refused adds none. -/
def Step.arrivals : Step → List Job
  | load policy text =>
    match (Table.read policy text).value with
    | .ok jobs => jobs
    | .error _ => []
  | add jobs => jobs
  | .slots _ | gpus _ | reconcile _ | select _ | pending .. | clear => []

/-- A step whose table is refused leaves the list as it is. -/
lemma Step.next_load_of_error {policy : Policy} {text : String} {error : Table.Error}
    (h : (Table.read policy text).value = .error error) (jobs : List Job) :
    (Step.load policy text).next jobs = jobs := by
  simp only [next, apply, Source.ofTable, Reported.map, Reported.mapNotices, h, Except.mapError,
    Except.map]

lemma Step.next_load_of_ok {policy : Policy} {text : String} {more : List Job}
    (h : (Table.read policy text).value = .ok more) (jobs : List Job) :
    (Step.load policy text).next jobs = jobs ++ more := by
  simp only [next, apply, Source.ofTable, Reported.map, Reported.mapNotices, h, Except.mapError,
    Except.map]

/-- After a step the list is a selection of the list before it, followed by what has arrived. -/
lemma selected_next (jobs : List Job) (step : Step) :
    Selected (step.next jobs) (jobs ++ step.arrivals) := by
  cases step with
  | load policy text =>
    cases h : (Table.read policy text).value with
    | ok more =>
      simp only [Step.next_load_of_ok h, Step.arrivals, h]
      exact Selected.refl _
    | error error =>
      simp only [Step.next_load_of_error h, Step.arrivals, h, List.append_nil]
      exact Selected.refl _
  | add more => exact Selected.refl _
  | slots most =>
    rw [Step.arrivals, List.append_nil]
    exact Selected.of_map (Job.grown_requireShapeSlots ⟨some most, 0⟩) jobs
  | gpus shape =>
    have hnext : (Step.gpus shape).next jobs = (Requirement.requireGpus shape jobs).value := rfl
    rw [hnext, Requirement.value_requireGpus, Step.arrivals, List.append_nil]
    exact Selected.of_map (Job.grown_requireShapeGpus shape) jobs
  | reconcile shape =>
    have hnext : (Step.reconcile shape).next jobs = (Requirement.reconcile shape jobs).value := rfl
    rw [hnext, Requirement.value_reconcile, Step.arrivals, List.append_nil]
    exact Selected.of_map (Job.grown_reconcile shape) jobs
  | select criteria =>
    have hnext : (Step.select criteria).next jobs = (criteria.select jobs).value := rfl
    rw [hnext, Criteria.value_select, Step.arrivals, List.append_nil]
    exact Selected.of_sublist List.filter_sublist
  | pending shape criteria =>
    have hnext : (Step.pending shape criteria).next jobs =
        (pendingOf shape criteria jobs).value := rfl
    rw [hnext, value_pendingOf, Step.arrivals, List.append_nil]
    -- a selection of raised jobs of a selection
    refine (Selected.of_sublist List.filter_sublist).trans ?_
    exact (Selected.of_map (Job.grown_reconcile shape) _).trans
      (Selected.of_sublist List.filter_sublist)
  | clear => exact Selected.of_sublist (List.nil_sublist _)

lemma runSession_append (steps : List Step) (step : Step) :
    runSession (steps ++ [step]) = step.next (runSession steps) := by
  rw [runSession, List.foldl_append]
  rfl

lemma selected_runSession (steps : List Step) :
    Selected (runSession steps) (steps.flatMap Step.arrivals) := by
  induction steps using List.reverseRecOn with
  | nil => exact Selected.refl []
  | append_singleton steps step ih =>
    rw [runSession_append, List.flatMap_append, List.flatMap_singleton]
    exact (selected_next (runSession steps) step).trans (ih.append step.arrivals)

/-- **A session only selects and raises.**  After any steps the list consists of jobs that have
arrived, in the order of their arrival, each of which has grown at most as far as its node count
accounts for.  A step whose table is refused leaves the list as it is. -/
theorem runSession_selected (steps : List Step) :
    (∃ kept, kept.Sublist (steps.flatMap Step.arrivals) ∧
      List.Forall₂ Job.Grown kept (runSession steps)) ∧
    ∀ policy text error, (Table.read policy text).value = .error error →
      runSession (steps ++ [.load policy text]) = runSession steps := by
  refine ⟨Selected.iff_exists.1 (selected_runSession steps), ?_⟩
  intro policy text error h
  rw [runSession_append, Step.next_load_of_error h]

end NodeDemand
