/-
# Jobs as JSON

A job is an object with a member for every attribute.  A state is the name of a known state, or an
object that holds the code of an unknown one, so no code is mistaken for a known state.

Reading is more lenient than writing: further members do not count, the attributes may also stand
in an array in their order, and a known state may be the name of a member that holds nothing.
-/
import NodeDemand.Job.Basic
import NodeDemand.Json.Basic

namespace NodeDemand

namespace JobState

/-- The name of a state. -/
def name : JobState → String
  | pending => "Pending"
  | running => "Running"
  | suspended => "Suspended"
  | completing => "Completing"
  | completed => "Completed"
  | cancelled => "Cancelled"
  | failed => "Failed"
  | timeout => "Timeout"
  | nodeFail => "NodeFail"
  | preempted => "Preempted"
  | outOfMemory => "OutOfMemory"
  | unknown _ => "Unknown"

/-- The known state with a name. -/
def ofName? (name : String) : Option JobState := known.find? (·.name == name)

/-- A state as a value. -/
def toJson : JobState → Json
  | unknown code => .object [("Unknown", .text code)]
  | state => .text state.name

/-- The state that a value is. -/
def ofJson? : Json → Option JobState
  | .text name => ofName? name
  | .object [(name, .null)] => ofName? name
  | .object [(name, .text code)] => if name = "Unknown" then some (unknown code) else none
  | _ => none

/-- A state reads back. -/
@[simp] theorem ofJson?_toJson (state : JobState) : ofJson? state.toJson = some state := by
  cases state with
  | unknown code => simp [toJson, ofJson?]
  | _ => rfl

end JobState

namespace Tres

/-- A map of resources as a value. -/
def toJson (t : Tres) : Json := .object (t.entries.map fun e => (e.1, .ofCount e.2))

/-- The item of a map that a member of an object is. -/
def ofMember? (m : String × Json) : Option (String × UInt64) := m.2.count?.map (m.1, ·)

/-- The map of resources that a value is. -/
def ofJson? : Json → Option Tres
  | .object members => (members.mapM ofMember?).map ofList
  | _ => none

end Tres

namespace Job

/-- The names of the attributes, in order. -/
def memberNames : List String :=
  ["id", "state", "nodes", "cpus_total", "tasks", "cpus_per_task", "cpus_min_per_node",
    "pending_reason", "tres_per_job", "tres_per_task", "tres_per_node"]

/-- A job as a value; its members are sorted by name. -/
def toJson (job : Job) : Json :=
  .object
    [("cpus_min_per_node", .ofCount job.cpusMinPerNode),
      ("cpus_per_task", .ofCount job.cpusPerTask),
      ("cpus_total", .ofCount job.cpusTotal),
      ("id", .text job.id),
      ("nodes", .ofCount job.nodes),
      ("pending_reason", .text job.pendingReason),
      ("state", job.state.toJson),
      ("tasks", .ofCount job.tasks),
      ("tres_per_job", job.tresPerJob.toJson),
      ("tres_per_node", job.tresPerNode.toJson),
      ("tres_per_task", job.tresPerTask.toJson)]

/-- The job whose attributes are given in order. -/
def ofValues? : List Json → Option Job
  | [id, state, nodes, cpusTotal, tasks, cpusPerTask, cpusMinPerNode, pendingReason, tresPerJob,
      tresPerTask, tresPerNode] => do
    let id ← id.text?
    let state ← JobState.ofJson? state
    let nodes ← nodes.count?
    let cpusTotal ← cpusTotal.count?
    let tasks ← tasks.count?
    let cpusPerTask ← cpusPerTask.count?
    let cpusMinPerNode ← cpusMinPerNode.count?
    let pendingReason ← pendingReason.text?
    let tresPerJob ← Tres.ofJson? tresPerJob
    let tresPerTask ← Tres.ofJson? tresPerTask
    let tresPerNode ← Tres.ofJson? tresPerNode
    return { id, state, nodes, cpusTotal, tasks, cpusPerTask, cpusMinPerNode, pendingReason,
             tresPerJob, tresPerTask, tresPerNode }
  | _ => none

/-- The job that a value is. -/
def ofJson? : Json → Option Job
  | .object members => (memberNames.mapM (List.lookup · members)).bind ofValues?
  | .array values => ofValues? values
  | _ => none

end Job

end NodeDemand
