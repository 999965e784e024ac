/-
# What the program is asked to do

The options of one run: how to print, how much to report, which gateway to ask, and either to show
the pending jobs with the nodes that they really need or to list jobs as they are reported.  An
option that is not given has a default, or leaves the word to the description of the cluster.
-/
import NodeDemand.Cluster.File
import NodeDemand.Report.Basic

namespace NodeDemand

/-- When colours are used. -/
inductive Colors where
  /-- On a terminal. -/
  | auto
  | always
  | never
deriving DecidableEq, Repr

namespace Colors

/-- The name of a choice. -/
def name : Colors → String
  | auto => "auto"
  | always => "always"
  | never => "never"

/-- The choice with a name. -/
def ofName? (name : String) : Option Colors := [auto, always, never].find? (·.name == name)

/-- Whether colours are used. -/
def areUsed (onTerminal : Bool) : Colors → Bool
  | auto => onTerminal
  | always => true
  | never => false

end Colors

/-- A task of the program. -/
inductive Command where
  /-- Shows pending jobs with the nodes that they really need. -/
  | pending
  /-- Lists jobs as they are reported. -/
  | jobs
deriving DecidableEq, Repr

namespace Command

/-- The name of a task. -/
def name : Command → String
  | pending => "pending"
  | jobs => "jobs"

/-- The task with a name. -/
def ofName? (name : String) : Option Command := [pending, jobs].find? (·.name == name)

end Command

/-- How pending jobs are asked for. -/
structure PendingRequest where
  /-- A file with a captured table, to be read instead of asking the gateway. -/
  input : Option String := none
  /-- What a cell that cannot be read does. -/
  invalidFields : Option Policy := none
  /-- A file with the description of the cluster. -/
  config : Option String := none
  /-- The number of CPU slots of a node. -/
  nodeSlots : Option UInt64 := none
  /-- The number of graphics processors of a node. -/
  gpusPerNode : Option Int64 := none
  /-- The greatest number of CPUs that a job may need on a node. -/
  maxSlots : Option UInt64 := none
  /-- The greatest number of nodes that a job may need. -/
  maxNodes : Option UInt64 := none
  /-- The pending reasons that select jobs. -/
  reasons : List String := []
  /-- Whether waiting for resources selects a job. -/
  resourceReasons : Bool := false
deriving DecidableEq, Repr

/-- How a list of jobs is asked for. -/
structure JobsRequest where
  /-- A file with a captured table, to be read instead of asking the gateway. -/
  input : Option String := none
  /-- What a cell that cannot be read does. -/
  invalidFields : Option Policy := none
  /-- The states that select jobs. -/
  states : Option String := none
deriving DecidableEq, Repr

/-- A task with its own options. -/
inductive Request where
  | pending (request : PendingRequest)
  | jobs (request : JobsRequest)
deriving DecidableEq, Repr

/-- The options of a run. -/
structure Options where
  /-- When colours are used. -/
  colors : Colors := .auto
  /-- The form of what is printed. -/
  form : Report.Form := .grid
  /-- Whether more is reported. -/
  debug : Bool := false
  /-- The gateway. -/
  gateway : Gateway := {}
  /-- The task. -/
  request : Request
deriving DecidableEq, Repr

namespace PendingRequest

/-- A description of a cluster with the values of a request in their places.  Reasons replace those
of the description, if there are any. -/
def override (request : PendingRequest) (base : Cluster) : Cluster where
  nodeSlots := request.nodeSlots.or base.nodeSlots
  gpusPerNode := request.gpusPerNode.getD base.gpusPerNode
  maxSlots := request.maxSlots.or base.maxSlots
  maxNodes := request.maxNodes.or base.maxNodes
  pendingReasons := if request.reasons.isEmpty then base.pendingReasons else request.reasons
  resourceReasons := base.resourceReasons || request.resourceReasons
  invalidFields := request.invalidFields.getD base.invalidFields

/-- The description of the cluster in a file, or the default one. -/
def baseCluster (world : World) (request : PendingRequest) : Except Failure Cluster :=
  match request.config with
  | none => .ok {}
  | some path => Cluster.load world path

/-- The description of the cluster that a request works with. -/
def cluster (world : World) (request : PendingRequest) : Except Failure Cluster :=
  (request.baseCluster world).map request.override

end PendingRequest

end NodeDemand
