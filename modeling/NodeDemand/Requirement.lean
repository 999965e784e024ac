/-
# The nodes that a job really needs

The reported node count of a pending job is a lower bound only: it does not take into account that
a task cannot be split between nodes, nor the graphics processors that the job asks for.  Two
passes raise the node counts of a list of jobs, given the shape of a node.

* `requireSlots` fills the slots of a node with whole chunks of the job's least CPU count for each
  node, and asks for enough nodes to hold all CPUs of the job.
* `requireGpus` asks for enough nodes to hold the graphics processors of the job, and then to hold
  its tasks with theirs.  Where it raises the node count, it also sees to it that the job asks for
  its least CPU count on every node.

`reconcile` gives every job at least one node and runs the passes in this order.
-/
import NodeDemand.Count
import NodeDemand.Job.Basic
import NodeDemand.Reported

namespace NodeDemand

/-- The shape of a node of the cluster. -/
structure NodeShape where
  /-- The number of CPU slots, if the slot pass is wanted. -/
  slots : Option UInt64 := none
  /-- The number of graphics processors; without any the pass over them does nothing. -/
  gpus : Int64 := 0
deriving DecidableEq, Repr

namespace Requirement

/-- What the passes notice. -/
inductive Notice where
  /-- A node has no room for the least CPU count of a job. -/
  | noRoom (id : String) (cpus slots nodes : UInt64)
  /-- A node has no room for the graphics processors of a task. -/
  | noGpus (id : String) (perTask perNode : UInt64)
deriving DecidableEq, Repr

/-- The gravity of a notice. -/
def Notice.level : Notice → Level
  | noRoom .. => .debug
  | noGpus .. => .warn

end Requirement

namespace Job

/-- Whether a node with so many slots has room for the least CPU count of a job. -/
def fitsSlots (slots : UInt64) (job : Job) : Bool :=
  !(job.cpusMinPerNode == 0 || decide (slots < job.cpusMinPerNode))

/-- The slots of a node that whole chunks of the least CPU count of a job can fill. -/
def usableSlots (slots : UInt64) (job : Job) : UInt64 := slots - slots % job.cpusMinPerNode

/-- The job with its node count raised so that its CPUs fit into whole chunks. -/
def requireSlots (slots : UInt64) (job : Job) : Job :=
  if job.fitsSlots slots then
    { job with
      nodes := Count.larger job.nodes (Count.ceilDiv job.cpusTotal (job.usableSlots slots)) }
  else job

/-- What there is to say about a job in the slot pass. -/
def slotNotice? (slots : UInt64) (job : Job) : Option Requirement.Notice :=
  if job.fitsSlots slots then none
  else some (.noRoom job.id job.cpusMinPerNode slots job.nodes)

/-- The job with at least so many nodes.  A job whose node count is raised also asks for its least
CPU count on every node. -/
def raiseNodes (least : UInt64) (job : Job) : Job :=
  if least ≤ job.nodes then job
  else { job with
    nodes := least
    cpusTotal := Count.larger job.cpusTotal (Count.mul least job.cpusMinPerNode) }

/-- The job with enough nodes for the graphics processors that it asks for in all. -/
def requireGpusPerJob (gpus : UInt64) (job : Job) : Job :=
  match job.gpusPerJob? with
  | none => job
  | some n => if n = 0 then job else job.raiseNodes (Count.ceilDiv n gpus)

/-- The job with enough nodes for its tasks, none of which is split between nodes. -/
def requireGpusPerTask (gpus : UInt64) (job : Job) : Job :=
  match job.gpusPerTask? with
  | none => job
  | some n =>
    if n = 0 then job
    else if gpus / n = 0 then job
    else job.raiseNodes (Count.ceilDiv job.tasks (gpus / n))

/-- The job with enough nodes for its graphics processors. -/
def requireGpus (gpus : UInt64) (job : Job) : Job :=
  (job.requireGpusPerJob gpus).requireGpusPerTask gpus

/-- What there is to say about a job in the pass over graphics processors. -/
def gpuNotice? (gpus : UInt64) (job : Job) : Option Requirement.Notice :=
  match job.gpusPerTask? with
  | none => none
  | some n => if n ≠ 0 ∧ gpus / n = 0 then some (.noGpus job.id n gpus) else none

/-- The job with at least one node. -/
def withSomeNode (job : Job) : Job := if job.nodes = 0 then { job with nodes := 1 } else job

end Job

/-- The number of graphics processors of a node, if there are any. -/
def NodeShape.gpuCount? (shape : NodeShape) : Option UInt64 :=
  if 0 < shape.gpus then some (UInt64.ofNat shape.gpus.toInt.toNat) else none

namespace Requirement

/-- The slot pass over a list of jobs. -/
def requireSlots (slots : UInt64) (jobs : List Job) : Reported Notice (List Job) :=
  ⟨jobs.map (·.requireSlots slots), jobs.filterMap (·.slotNotice? slots)⟩

/-- The pass over the graphics processors of a list of jobs. -/
def requireGpus (shape : NodeShape) (jobs : List Job) : Reported Notice (List Job) :=
  match shape.gpuCount? with
  | none => .silent jobs
  | some gpus => ⟨jobs.map (·.requireGpus gpus), jobs.filterMap (·.gpuNotice? gpus)⟩

/-- The slot pass, if the shape of a node asks for it. -/
def requireShapeSlots (shape : NodeShape) (jobs : List Job) : Reported Notice (List Job) :=
  match shape.slots with
  | none => .silent jobs
  | some slots => requireSlots slots jobs

/-- A list of jobs with the node counts that they really need. -/
def reconcile (shape : NodeShape) (jobs : List Job) : Reported Notice (List Job) :=
  (requireShapeSlots shape (jobs.map Job.withSomeNode)).andThen (requireGpus shape)

/-- The number of nodes with which all jobs of a list could start at once. -/
def totalNodes (jobs : List Job) : UInt64 := Count.total (jobs.map Job.nodes)

end Requirement

end NodeDemand
