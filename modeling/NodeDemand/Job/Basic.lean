/-
# Jobs

A job of a snapshot: what it asks for and in which state it is.  The node count and the CPU count
start as reported and can only be raised.
-/
import NodeDemand.Job.State
import NodeDemand.Tres.Basic

namespace NodeDemand

/-- A job of a snapshot. -/
structure Job where
  /-- The name under which the job is known. -/
  id : String
  /-- The state of the job. -/
  state : JobState := .pending
  /-- The least number of nodes that the job needs. -/
  nodes : UInt64 := 0
  /-- The number of CPUs that the job asks for in all. -/
  cpusTotal : UInt64 := 0
  /-- The number of tasks. -/
  tasks : UInt64 := 0
  /-- The number of CPUs for each task. -/
  cpusPerTask : UInt64 := 0
  /-- The least number of CPUs on each node. -/
  cpusMinPerNode : UInt64 := 0
  /-- Why the job is pending. -/
  pendingReason : String := ""
  /-- The resources that the job asks for in all. -/
  tresPerJob : Tres := .empty
  /-- The resources that the job asks for with each task. -/
  tresPerTask : Tres := .empty
  /-- The resources that the job asks for on each node. -/
  tresPerNode : Tres := .empty
deriving DecidableEq, Repr

namespace Job

/-- The number of graphics processors that a job asks for in all. -/
def gpusPerJob? (job : Job) : Option UInt64 := job.tresPerJob.find? Tres.gpu

/-- The number of graphics processors that a job asks for with each task. -/
def gpusPerTask? (job : Job) : Option UInt64 := job.tresPerTask.find? Tres.gpu

end Job

/-- The reasons for which a job waits for resources of the cluster rather than for something
else, such as another job. -/
def resourceReasons : List String :=
  ["Resources",
    "Nodes required for job are DOWN, DRAINED or reserved for jobs in higher priority partitions",
    "BeginTime",
    "NodeDown",
    "Priority",
    "ReqNodeNotAvail, May be reserved for other job"]

end NodeDemand
