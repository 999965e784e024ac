/-
# Notices

Everything that the program reports while it works, besides its result.  A notice has a level, a
wording, and an origin: the part of the program that it comes from.
-/
import NodeDemand.Cluster.Basic

namespace NodeDemand

/-- What the program notices. -/
inductive Notice where
  /-- The cluster for which requirements are computed. -/
  | configuration (cluster : Cluster)
  /-- A captured table is read from a file. -/
  | readingTable (path : String)
  /-- A program is run with arguments. -/
  | runningCommand (command : List String)
  /-- A table is read. -/
  | table (notice : Table.Notice)
  /-- A job is left out because it is not pending. -/
  | ignoredJob (id : String) (state : JobState)
  /-- Requirements are computed. -/
  | requirement (notice : Requirement.Notice)
  /-- Jobs are selected. -/
  | criteria (notice : Criteria.Notice)
  /-- There is no pending job to show. -/
  | nothingPending
  /-- There is no job to show. -/
  | noJobs
deriving DecidableEq, Repr

namespace Notice

/-- The level of a notice. -/
def level : Notice → Level
  | configuration _ => .debug
  | readingTable _ => .debug
  | runningCommand _ => .debug
  | table notice => notice.level
  | ignoredJob .. => .debug
  | requirement notice => notice.level
  | criteria _ => .info
  | nothingPending => .info
  | noJobs => .info

/-- A count in a message. -/
def shown (n : UInt64) : String := Decimal.text n.toNat

/-- The wording of a notice. -/
def message : Notice → String
  | configuration cluster => "Cluster configuration: " ++ cluster.summary
  | readingTable path => "Reading squeue output from " ++ path
  | runningCommand command => "Running command `" ++ " ".intercalate command ++ "`"
  | table notice => notice.message
  | ignoredJob id state => "Ignoring job " ++ id ++ " in state " ++ state.code
  | requirement (.noRoom id cpus slots nodes) =>
    "Job " ++ id ++ ": cannot fit " ++ shown cpus ++ " CPUs into nodes with " ++ shown slots ++
      " slots, keeping " ++ shown nodes ++ " nodes"
  | requirement (.noGpus id perTask perNode) =>
    "Job " ++ id ++ " requests " ++ shown perTask ++ " GPUs per task, but nodes have only " ++
      shown perNode ++ " GPUs"
  | criteria ⟨id, .slots needed most⟩ =>
    "Skipping job " ++ id ++ " since required slots per node (" ++ shown needed ++
      ") exceed max slots (" ++ shown most ++ ")"
  | criteria ⟨id, .nodes needed most⟩ =>
    "Skipping job " ++ id ++ " since required nodes (" ++ shown needed ++
      ") exceed max nodes in cluster (" ++ shown most ++ ")"
  | criteria ⟨id, .reason reason⟩ =>
    "Skipping pending job " ++ id ++ " due to pending reason: " ++ reason
  | nothingPending => "No pending jobs require additional nodes"
  | noJobs => "No jobs found"

/-- The part of the program that a notice comes from, as the log names it. -/
def origin : Notice → String
  | configuration _ => "slurm_sizer::client::commands::jobs"
  | readingTable _ => "slurm_sizer::client::commands::jobs"
  | runningCommand _ => "slurm_sizer::common::manager::common"
  | table _ => "slurm_sizer::jobs::table"
  | ignoredJob .. => "slurm_sizer::pending"
  | requirement (.noRoom ..) => "slurm_sizer::reconcile::slots"
  | requirement (.noGpus ..) => "slurm_sizer::reconcile::gpus"
  | criteria _ => "slurm_sizer::reconcile::filter"
  | nothingPending => "slurm_sizer::client::output::cli"
  | noJobs => "slurm_sizer::client::output::cli"

end Notice

end NodeDemand
