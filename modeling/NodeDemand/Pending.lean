/-
# From a snapshot to the nodes that are needed

The pending jobs of a snapshot are taken, the node counts that they really need are computed, and
the jobs that count are selected.  The snapshot is complete before any job is touched, so a source
that fails never gives a part of a result.
-/
import NodeDemand.Source

namespace NodeDemand

/-- The notice that a job is left out because it is not pending. -/
def Job.ignoredNotice? (job : Job) : Option Notice :=
  if job.state.isPending then none else some (.ignoredJob job.id job.state)

/-- The pending jobs of a snapshot. -/
def onlyPending (jobs : List Job) : Reported Notice (List Job) :=
  ⟨jobs.filter (·.state.isPending), jobs.filterMap Job.ignoredNotice?⟩

/-- The pending jobs of a snapshot with the node counts that they really need, as far as they meet
the criteria. -/
def pendingOf (shape : NodeShape) (criteria : Criteria) (jobs : List Job) :
    Reported Notice (List Job) :=
  ((onlyPending jobs).andThen fun jobs =>
    (Requirement.reconcile shape jobs).mapNotices .requirement).andThen fun jobs =>
      (criteria.select jobs).mapNotices .criteria

/-- The pending jobs of a source with the node counts that they really need. -/
def pendingJobs (world : World) (source : Source) (shape : NodeShape) (criteria : Criteria) :
    Reported Notice (Except Failure (List Job)) :=
  (source.jobs world).andThenOk fun jobs => (pendingOf shape criteria jobs).map .ok

end NodeDemand
