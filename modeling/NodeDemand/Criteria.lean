/-
# Which jobs count

Criteria select the jobs that matter for a decision about the size of the cluster.  A criterion
that is not set accepts every job, and so does an empty list of reasons.  A refused job is refused
for the first criterion that it violates, in the order: CPUs on a node, nodes, pending reason.
-/
import NodeDemand.Job.Basic
import NodeDemand.Reported

namespace NodeDemand

/-- Criteria for jobs. -/
structure Criteria where
  /-- The greatest number of CPUs that a node can give. -/
  maxSlots : Option UInt64 := none
  /-- The greatest number of nodes that the cluster can give. -/
  maxNodes : Option UInt64 := none
  /-- The accepted pending reasons. -/
  reasons : Option (List String) := none
deriving DecidableEq, Repr

namespace Criteria

/-- Why a job is refused. -/
inductive Refusal where
  /-- The job needs too many CPUs on a node. -/
  | slots (needed most : UInt64)
  /-- The job needs too many nodes. -/
  | nodes (needed most : UInt64)
  /-- The job is pending for a reason that is not accepted. -/
  | reason (reason : String)
deriving DecidableEq, Repr

/-- What a selection notices: a job is left out. -/
structure Notice where
  /-- The name of the job. -/
  id : String
  /-- Why it is left out. -/
  refusal : Refusal
deriving DecidableEq, Repr

/-- Whether no criterion is set. -/
def isEmpty (criteria : Criteria) : Bool :=
  criteria.maxSlots.isNone && criteria.maxNodes.isNone &&
    criteria.reasons.all (·.isEmpty)

/-- The refusal for too many CPUs on a node. -/
def slotRefusal? (criteria : Criteria) (job : Job) : Option Refusal :=
  criteria.maxSlots.bind fun most =>
    if most < job.cpusMinPerNode then some (.slots job.cpusMinPerNode most) else none

/-- The refusal for too many nodes. -/
def nodeRefusal? (criteria : Criteria) (job : Job) : Option Refusal :=
  criteria.maxNodes.bind fun most =>
    if most < job.nodes then some (.nodes job.nodes most) else none

/-- The refusal for a pending reason. -/
def reasonRefusal? (criteria : Criteria) (job : Job) : Option Refusal :=
  criteria.reasons.bind fun reasons =>
    if !reasons.isEmpty && !reasons.contains job.pendingReason then some (.reason job.pendingReason)
    else none

/-- Why a job is refused, if it is. -/
def refusal? (criteria : Criteria) (job : Job) : Option Refusal :=
  (criteria.slotRefusal? job).or ((criteria.nodeRefusal? job).or (criteria.reasonRefusal? job))

/-- Whether a job is accepted. -/
def accepts (criteria : Criteria) (job : Job) : Bool := (criteria.refusal? job).isNone

/-- The notice that a job is left out, if it is. -/
def notice? (criteria : Criteria) (job : Job) : Option Notice :=
  (criteria.refusal? job).map (⟨job.id, ·⟩)

/-- The accepted jobs, in order.  Without criteria the list is passed on as it is. -/
def select (criteria : Criteria) (jobs : List Job) : Reported Notice (List Job) :=
  if criteria.isEmpty then .silent jobs
  else ⟨jobs.filter criteria.accepts, jobs.filterMap criteria.notice?⟩

end Criteria

end NodeDemand
