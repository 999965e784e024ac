/-
# Where snapshots of jobs come from

A snapshot is at hand, or is read from a file with a captured table, or is asked from the gateway.
A source yields all its jobs or a failure, never a part of its jobs.
-/
import NodeDemand.Gateway

namespace NodeDemand

/-- A source of jobs. -/
inductive Source where
  /-- The jobs are at hand. -/
  | snapshot (jobs : List Job)
  /-- There is nothing to be had. -/
  | failing (failure : Failure)
  /-- A table was captured in a file; only jobs in the listed states are kept. -/
  | captured (path : String) (policy : Policy) (states : Option String)
  /-- The gateway prints a table; it is asked for jobs in the listed states. -/
  | gateway (caller : Gateway) (policy : Policy) (states : Option String)
deriving DecidableEq, Repr

namespace Source

/-- The jobs of a table. -/
def ofTable (policy : Policy) (text : String) : Reported Notice (Except Failure (List Job)) :=
  ((Table.read policy text).map (·.mapError .table)).mapNotices .table

/-- The jobs that are in one of the listed states; without a list, or if it selects every state,
all of them. -/
def keepStates (states : Option String) (jobs : List Job) : List Job :=
  match states.bind readStates with
  | none => jobs
  | some states => jobs.filter fun job => states.contains job.state

/-- The jobs of a source. -/
def jobs (world : World) : Source → Reported Notice (Except Failure (List Job))
  | snapshot jobs => ⟨.ok jobs, []⟩
  | failing failure => ⟨.error failure, []⟩
  | captured path policy states =>
    match world.readText path with
    | .error failure => ⟨.error failure, []⟩
    | .ok text => (ofTable policy text).map (·.map (keepStates states))
  | .gateway caller policy states =>
    (world.capture (caller.command states)).andThenOk (ofTable policy)

end Source

end NodeDemand
