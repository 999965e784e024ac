/-
# Sessions

A session works on one list of jobs, which is empty at first.  Its steps add jobs, compute their
requirements and select among them, each step with settings of its own.  A step that fails leaves
the list as it was.
-/
import NodeDemand.Pending

namespace NodeDemand

/-- A step of a session. -/
inductive Step where
  /-- Adds the jobs of a table. -/
  | load (policy : Policy) (text : String)
  /-- Adds jobs. -/
  | add (jobs : List Job)
  /-- Runs the slot pass. -/
  | slots (most : UInt64)
  /-- Runs the pass over graphics processors. -/
  | gpus (shape : NodeShape)
  /-- Computes the requirements. -/
  | reconcile (shape : NodeShape)
  /-- Selects jobs. -/
  | select (criteria : Criteria)
  /-- Takes the pending jobs, computes their requirements and selects among them. -/
  | pending (shape : NodeShape) (criteria : Criteria)
  /-- Forgets all jobs. -/
  | clear

namespace Step

/-- The list of jobs after a step. -/
def apply (jobs : List Job) : Step → Reported Notice (Except Failure (List Job))
  | load policy text => (Source.ofTable policy text).map (·.map (jobs ++ ·))
  | add more => ⟨.ok (jobs ++ more), []⟩
  | .slots most => ((Requirement.requireSlots most jobs).mapNotices .requirement).map .ok
  | gpus shape => ((Requirement.requireGpus shape jobs).mapNotices .requirement).map .ok
  | reconcile shape => ((Requirement.reconcile shape jobs).mapNotices .requirement).map .ok
  | select criteria => ((criteria.select jobs).mapNotices .criteria).map .ok
  | pending shape criteria => (pendingOf shape criteria jobs).map .ok
  | clear => ⟨.ok [], []⟩

/-- The list of jobs after a step, which is the list before it if the step fails. -/
def next (jobs : List Job) (step : Step) : List Job :=
  match (step.apply jobs).value with
  | .ok jobs => jobs
  | .error _ => jobs

end Step

/-- The list of jobs after the steps of a session. -/
def runSession (steps : List Step) : List Job := steps.foldl Step.next []

end NodeDemand
