/-
# A run of the program

What the program prints for its options, given what the outside world answers, and how it ends.
-/
import NodeDemand.Log
import NodeDemand.Options.Reader
import NodeDemand.Pending

namespace NodeDemand

/-- The result of a task. -/
structure Outcome where
  /-- What is printed. -/
  printed : Printed
  /-- Why there is no list of jobs, if there is none. -/
  failure : Option Failure := none
deriving DecidableEq, Repr

namespace Program

/-- The name of the program. -/
def name : String := "slurm-sizer"

/-- The version of the program. -/
def version : String := "0.1.0"

/-- The line that names the version. -/
def versionLine : String := name ++ " " ++ version ++ "\n"

/-- The source that a task reads, with what there is to say about it. -/
def source (gateway : Gateway) (input : Option String) (policy : Policy) (states : Option String) :
    Reported Notice Source :=
  match input with
  | none => .silent (.gateway gateway policy states)
  | some path => ⟨.captured path policy states, [.readingTable path]⟩

/-- The pending jobs that a request asks for. -/
def pendingJobs (world : World) (gateway : Gateway) (request : PendingRequest) :
    Reported Notice (Except Failure (List Job)) :=
  match request.cluster world with
  | .error failure => .silent (.error failure)
  | .ok cluster =>
    Reported.andThen ⟨(), [.configuration cluster]⟩ fun () =>
      (source gateway request.input cluster.invalidFields (some Gateway.pendingStates)).andThen
        fun source => NodeDemand.pendingJobs world source cluster.shape cluster.criteria

/-- The jobs that a request asks for. -/
def listedJobs (world : World) (gateway : Gateway) (request : JobsRequest) :
    Reported Notice (Except Failure (List Job)) :=
  (source gateway request.input (request.invalidFields.getD .reject) request.states).andThen
    (Source.jobs world)

/-- A result, printed: a list of jobs in its form, or the failure. -/
def printResult (form : Report.Form) (print : List Job → Reported Notice Printed)
    (result : Except Failure (List Job)) : Reported Notice Outcome :=
  match result with
  | .ok jobs => (print jobs).map fun printed => { printed }
  | .error failure => .silent ⟨form.error failure.message [], some failure⟩

/-- The result of a run. -/
def run (world : World) (onTerminal : Bool) (options : Options) : Reported Notice Outcome :=
  let colored := options.colors.areUsed onTerminal
  match options.request with
  | .pending request =>
    (pendingJobs world options.gateway request).andThen
      (printResult options.form (options.form.pending colored))
  | .jobs request =>
    (listedJobs world options.gateway request).andThen
      (printResult options.form (options.form.jobs colored))

/-! ### A whole run -/

/-- What is left of a whole run. -/
structure Ended where
  /-- The exit code. -/
  code : Nat
  /-- What is printed. -/
  printed : Printed
deriving DecidableEq, Repr

/-- How the program is used. -/
def usage : String :=
  "Usage: " ++ name ++ " [OPTIONS] <pending|jobs>\n"

/-- What is said about a command line that is not followed. -/
def haltText : Options.Halt → String
  | .unknownArgument => "error: unexpected argument\n"
  | .invalidCommand => "error: unrecognized subcommand\n"
  | .missingCommand => "error: a subcommand is missing\n"
  | .noArguments => ""
  | .conflict => "error: an option cannot be used multiple times\n"
  | .tooManyValues => "error: unexpected value for an option\n"
  | .invalidValue => "error: invalid value for an option\n"
  | .refusedValue => "error: invalid number for an option\n"
  | .help => ""
  | .version => ""

/-- The end of a run whose command line is not followed. -/
def halted (halt : Options.Halt) : Ended :=
  match halt with
  | .help => ⟨0, { stdout := usage }⟩
  | .version => ⟨0, { stdout := versionLine }⟩
  | halt => ⟨2, { stderr := haltText halt ++ usage }⟩

/-- A run with its log, which goes to standard error before any other text. -/
def ended (world : World) (onTerminal : Bool) (env : Options.Environment) (options : Options) :
    Ended :=
  let result := run world onTerminal options
  let log := (Log.Settings.ofRun options.debug env.log).text result.notices
  let printed := result.value.printed
  { code := if result.value.failure.isSome then 1 else 0
    printed := { printed with stderr := log ++ printed.stderr } }

end Program

end NodeDemand
