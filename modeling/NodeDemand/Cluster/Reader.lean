/-
# Reading the description of a cluster

A description is a document whose keys are the names of the values; a key that is not known, or a
value of the wrong type or out of range, makes it malformed.  A well-formed description is refused
if one of its limits is zero.
-/
import NodeDemand.Cluster.Basic
import NodeDemand.Toml.Reader

namespace NodeDemand.Cluster

/-- Why a description is refused. -/
inductive Error where
  /-- The text does not describe a cluster. -/
  | malformed
  /-- A limit is zero. -/
  | zero (limit : Limit)
deriving DecidableEq, Repr

/-- The count in a value. -/
def countValue? : Toml.Value → Option UInt64
  | .integer n =>
    if 0 ≤ n ∧ n < (UInt64.size : Int) then some (UInt64.ofNat n.toNat) else none
  | _ => none

/-- The signed number in a value. -/
def signedValue? : Toml.Value → Option Int64
  | .integer n =>
    if Int64.minValue.toInt ≤ n ∧ n ≤ Int64.maxValue.toInt then some (Int64.ofInt n) else none
  | _ => none

/-- The string in a value. -/
def textValue? : Toml.Value → Option String
  | .text s => some s
  | _ => none

/-- The strings in a value. -/
def textValues? : Toml.Value → Option (List String)
  | .array vs => vs.mapM textValue?
  | _ => none

/-- The truth value in a value. -/
def booleanValue? : Toml.Value → Option Bool
  | .boolean b => some b
  | _ => none

/-- The policy in a value: its name, or a table with the name as its only key and nothing in it. -/
def policyValue? : Toml.Value → Option Policy
  | .text s => Policy.ofName? s
  | .table _ [(name, .array [])] => Policy.ofName? name
  | .table _ [(name, .table _ [])] => Policy.ofName? name
  | _ => none

/-- The description with the value of a key set. -/
def setKey (cluster : Cluster) (key : String) (v : Toml.Value) : Option Cluster :=
  match key with
  | "node_slots" => (countValue? v).map fun n => { cluster with nodeSlots := some n }
  | "gpus_per_node" => (signedValue? v).map fun n => { cluster with gpusPerNode := n }
  | "max_slots" => (countValue? v).map fun n => { cluster with maxSlots := some n }
  | "max_nodes" => (countValue? v).map fun n => { cluster with maxNodes := some n }
  | "pending_reasons" => (textValues? v).map fun rs => { cluster with pendingReasons := rs }
  | "resource_reasons" => (booleanValue? v).map fun b => { cluster with resourceReasons := b }
  | "invalid_fields" => (policyValue? v).map fun p => { cluster with invalidFields := p }
  | _ => none

/-- The description that the entries of a document give. -/
def ofEntries? (entries : Toml.Entries) : Option Cluster :=
  entries.foldlM (fun cluster e => cluster.setKey e.1 e.2) {}

/-- The description that a text gives. -/
def read (text : String) : Except Error Cluster :=
  match (Toml.read text).bind ofEntries? with
  | none => .error .malformed
  | some cluster =>
    match cluster.zeroLimit? with
    | some limit => .error (.zero limit)
    | none => .ok cluster

end NodeDemand.Cluster
