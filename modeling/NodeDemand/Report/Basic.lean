/-
# What the program prints

A list of jobs is printed as a grid for readers, as JSON, or as one line for each job with its
node count alone.  An error is printed in the same form.  The list of pending jobs is printed
with the number of nodes that they need together.
-/
import NodeDemand.Job.Json
import NodeDemand.Json.Writer
import NodeDemand.Notice
import NodeDemand.Report.Grid
import NodeDemand.Text.Filling
import NodeDemand.Tres.Writer

namespace NodeDemand

/-- What is printed. -/
structure Printed where
  /-- The text on standard output. -/
  stdout : String := ""
  /-- The text on standard error. -/
  stderr : String := ""
deriving DecidableEq, Repr

namespace Report

/-- The form in which something is printed. -/
inductive Form where
  /-- A grid for readers. -/
  | grid
  /-- A JSON value. -/
  | json
  /-- A line for each job. -/
  | brief
deriving DecidableEq, Repr

/-- The name of a form. -/
def Form.name : Form → String
  | grid => "cli"
  | json => "json"
  | brief => "quiet"

/-- The form with a name. -/
def Form.ofName? (name : String) : Option Form := [grid, json, brief].find? (·.name == name)

/-! ### Grids -/

/-- The width of the column with pending reasons. -/
def reasonWidth : Nat := 40

/-- The style of a state. -/
def statePaint? : JobState → Option Paint
  | .pending => some .yellow
  | .running => some .cyan
  | .completing => some .cyan
  | .completed => some .green
  | .failed => some .red
  | .timeout => some .red
  | .nodeFail => some .red
  | .outOfMemory => some .red
  | .cancelled => some .red
  | _ => none

/-- The code of a state, painted on a terminal with colours. -/
def stateText (colored : Bool) (state : JobState) : List Char :=
  match statePaint? state with
  | some paint => if colored then paint.paint state.code.toList else state.code.toList
  | none => state.code.toList

/-- A cell with a string. -/
def textCell (s : String) : GridCell := .ofText s.toList

/-- A cell with a count. -/
def countCell (n : UInt64) : GridCell :=
  { GridCell.ofText (Decimal.write n.toNat) with toRight := true }

/-- The titles of the columns. -/
def titles : List String :=
  ["ID", "State", "Nodes", "CPUs", "Tasks", "CPUs/task", "Min CPUs/node", "Reason", "TRES/job",
    "TRES/task", "TRES/node"]

/-- The header of the grid. -/
def header : List GridCell := titles.map fun title => { textCell title with style := some .bold }

/-- The row of a job. -/
def jobCells (colored : Bool) (job : Job) : List GridCell :=
  [{ textCell job.id with toRight := true },
    .ofText (stateText colored job.state),
    countCell job.nodes,
    countCell job.cpusTotal,
    countCell job.tasks,
    countCell job.cpusPerTask,
    countCell job.cpusMinPerNode,
    .ofText (Text.fill reasonWidth job.pendingReason.toList),
    textCell job.tresPerJob.text,
    textCell job.tresPerTask.text,
    textCell job.tresPerNode.text]

/-- A list of jobs as a grid. -/
def jobGrid (colored : Bool) (jobs : List Job) : String :=
  String.ofList (Grid.write colored header (jobs.map (jobCells colored)))

/-- The line below the grid of pending jobs. -/
def totalLine (colored : Bool) (jobs : List Job) : String :=
  let label := "Required nodes:"
  let label := if colored then String.ofList (Paint.bold.paint label.toList) else label
  label ++ " " ++ Decimal.text (Requirement.totalNodes jobs).toNat ++ " (" ++
    Decimal.text jobs.length ++ " jobs)\n"

/-- What is said about a script in which words cannot be found. -/
def unsegmentedLine? (script : Text.UnspacedScript) : Option String :=
  script.name?.map fun name =>
    "ICU4X data error: No segmentation model for complex script: " ++ name ++ "\n"

/-- What is said about the scripts in the pending reasons of jobs. -/
def unsegmentedText (jobs : List Job) : String :=
  String.join ((jobs.flatMap fun job =>
    Text.unsegmented reasonWidth job.pendingReason.toList).filterMap unsegmentedLine?)

/-! ### JSON -/

/-- A list of jobs as a value. -/
def jobsJson (jobs : List Job) : Json := .array (jobs.map Job.toJson)

/-- A list of pending jobs as a value, with the number of nodes that they need together. -/
def pendingJson (jobs : List Job) : Json :=
  .object [("jobs", jobsJson jobs), ("required_nodes", .ofCount (Requirement.totalNodes jobs))]

/-- An error as a value. -/
def errorJson (text : String) : Json := .object [("error", .text text)]

/-- A value as it is printed. -/
def printedJson (v : Json) : Printed := { stdout := v.write ++ "\n" }

/-! ### Lines -/

/-- The line of a job. -/
def jobLine (job : Job) : List Char :=
  job.id.toList ++ ' ' :: Decimal.write job.nodes.toNat ++ ['\n']

/-- The lines of a list of jobs. -/
def jobLines (jobs : List Job) : String := String.ofList (jobs.flatMap jobLine)

/-! ### Errors -/

/-- A cause with its number, if it has one; further lines are indented alike. -/
def causeText (number : Option Nat) (cause : String) : List Char :=
  let start := number.elim (List.replicate 4 ' ') fun n =>
    let digits := Decimal.write n
    List.replicate (5 - digits.length) ' ' ++ digits ++ [':', ' ']
  let indent := List.replicate (if number.isSome then 7 else 4) ' '
  start ++ Text.joinWith ('\n' :: indent) (Text.splitAt '\n' cause.toList)

/-- The causes of an error, each cause after what it caused. -/
def causesText : List String → List Char
  | [] => []
  | [cause] => "\n\nCaused by:\n".toList ++ causeText none cause
  | causes =>
    "\n\nCaused by:".toList ++
      (causes.zipIdx.flatMap fun (cause, n) => '\n' :: causeText (some n) cause)

/-- An error with its causes. -/
def errorText (message : String) (causes : List String) : String :=
  message ++ String.ofList (causesText causes)

end Report

/-! ### Printing -/

namespace Report.Form

/-- A list of jobs, printed. -/
def jobs (form : Form) (colored : Bool) (jobs : List Job) : Reported Notice Printed :=
  match form with
  | grid =>
    if jobs.isEmpty then ⟨{}, [.noJobs]⟩
    else .silent { stdout := jobGrid colored jobs, stderr := unsegmentedText jobs }
  | json => .silent (printedJson (jobsJson jobs))
  | brief => .silent { stdout := jobLines jobs }

/-- A list of pending jobs, printed. -/
def pending (form : Form) (colored : Bool) (jobs : List Job) : Reported Notice Printed :=
  match form with
  | grid =>
    if jobs.isEmpty then ⟨{}, [.nothingPending]⟩
    else
      .silent
        { stdout := jobGrid colored jobs ++ totalLine colored jobs
          stderr := unsegmentedText jobs }
  | json => .silent (printedJson (pendingJson jobs))
  | brief => .silent { stdout := jobLines jobs }

/-- An error, printed. -/
def error (form : Form) (message : String) (causes : List String) : Printed :=
  let text := errorText message causes
  match form with
  | json => printedJson (errorJson text)
  | _ => { stderr := text ++ "\n" }

end Report.Form

end NodeDemand
