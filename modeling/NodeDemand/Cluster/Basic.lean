/-
# The description of a cluster

A cluster is described by the shape of its nodes, by the limits and reasons that select jobs, and
by the policy for cells that cannot be read.  Values that are not given have defaults, and limits
that are given are positive (`Cluster.check`).
-/
import NodeDemand.Criteria
import NodeDemand.Requirement
import NodeDemand.Table.Reader
import NodeDemand.Text.Quoted

namespace NodeDemand

/-- The description of a cluster. -/
structure Cluster where
  /-- The number of CPU slots of a node. -/
  nodeSlots : Option UInt64 := none
  /-- The number of graphics processors of a node. -/
  gpusPerNode : Int64 := 0
  /-- The greatest number of CPUs that a job may need on a node. -/
  maxSlots : Option UInt64 := none
  /-- The greatest number of nodes that a job may need. -/
  maxNodes : Option UInt64 := none
  /-- The pending reasons that select jobs. -/
  pendingReasons : List String := []
  /-- Whether waiting for resources selects a job. -/
  resourceReasons : Bool := false
  /-- What a cell that cannot be read does. -/
  invalidFields : Policy := .reject
deriving DecidableEq, Repr

namespace Cluster

/-- A limit that has to be positive. -/
inductive Limit where
  | nodeSlots
  | maxSlots
  | maxNodes
deriving DecidableEq, Repr

/-- The name of a limit. -/
def Limit.name : Limit → String
  | nodeSlots => "node_slots"
  | maxSlots => "max_slots"
  | maxNodes => "max_nodes"

/-- The first limit that is zero. -/
def zeroLimit? (cluster : Cluster) : Option Limit :=
  if cluster.nodeSlots = some 0 then some .nodeSlots
  else if cluster.maxSlots = some 0 then some .maxSlots
  else if cluster.maxNodes = some 0 then some .maxNodes
  else none

/-- The shape of the nodes. -/
def shape (cluster : Cluster) : NodeShape := ⟨cluster.nodeSlots, cluster.gpusPerNode⟩

/-- The pending reasons that select jobs, with those of waiting for resources. -/
def reasons (cluster : Cluster) : List String :=
  cluster.pendingReasons ++ if cluster.resourceReasons then NodeDemand.resourceReasons else []

/-- The criteria that select jobs. -/
def criteria (cluster : Cluster) : Criteria where
  maxSlots := cluster.maxSlots
  maxNodes := cluster.maxNodes
  reasons := if cluster.reasons.isEmpty then none else some cluster.reasons

/-! ### The description as one line -/

/-- An optional count as the line shows it. -/
def showLimit (limit : Option UInt64) : String :=
  Text.showOptional (limit.map fun n => Decimal.text n.toNat)

/-- A whole number as the line shows it. -/
def showInteger (n : Int) : String :=
  if n < 0 then "-" ++ Decimal.text n.natAbs else Decimal.text n.toNat

/-- A policy as the line shows it. -/
def showPolicy : Policy → String
  | .reject => "Reject"
  | .skipJob => "SkipJob"
  | .default => "Default"

/-- A description as one line, for the log. -/
def summary (cluster : Cluster) : String :=
  Text.showRecord "ClusterConfig"
    [("node_slots", showLimit cluster.nodeSlots),
      ("gpus_per_node", showInteger cluster.gpusPerNode.toInt),
      ("max_slots", showLimit cluster.maxSlots),
      ("max_nodes", showLimit cluster.maxNodes),
      ("pending_reasons",
        "[" ++ ", ".intercalate (cluster.pendingReasons.map Text.quote) ++ "]"),
      ("resource_reasons", if cluster.resourceReasons then "true" else "false"),
      ("invalid_fields", showPolicy cluster.invalidFields)]

end Cluster

end NodeDemand
