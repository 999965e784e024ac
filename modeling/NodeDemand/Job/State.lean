/-
# Job states

A job is in one of eleven known states, or in a state that is known by its code only.  A code is
read without surrounding blanks and without regard to case, in its compact or in its long form;
a code that is not known is kept as it stands.
-/
import NodeDemand.Text.Blank
import NodeDemand.Text.Lines
import NodeDemand.Text.UpperCase

namespace NodeDemand

/-- The state of a job. -/
inductive JobState where
  | pending
  | running
  | suspended
  | completing
  | completed
  | cancelled
  | failed
  | timeout
  | nodeFail
  | preempted
  | outOfMemory
  /-- A state with a code that is not known. -/
  | unknown (code : String)
deriving DecidableEq, Repr

namespace JobState

/-- The known states. -/
def known : List JobState :=
  [pending, running, suspended, completing, completed, cancelled, failed, timeout, nodeFail,
    preempted, outOfMemory]

/-- The compact code of a state, by which it is shown. -/
def code : JobState → String
  | pending => "PD"
  | running => "R"
  | suspended => "S"
  | completing => "CG"
  | completed => "CD"
  | cancelled => "CA"
  | failed => "F"
  | timeout => "TO"
  | nodeFail => "NF"
  | preempted => "PR"
  | outOfMemory => "OOM"
  | unknown code => code

/-- The long code of a state. -/
def longCode : JobState → String
  | pending => "PENDING"
  | running => "RUNNING"
  | suspended => "SUSPENDED"
  | completing => "COMPLETING"
  | completed => "COMPLETED"
  | cancelled => "CANCELLED"
  | failed => "FAILED"
  | timeout => "TIMEOUT"
  | nodeFail => "NODE_FAIL"
  | preempted => "PREEMPTED"
  | outOfMemory => "OUT_OF_MEMORY"
  | unknown code => code

/-- Whether a text is one of the two codes of a state. -/
def hasCode (state : JobState) (text : List Char) : Bool :=
  text == state.code.toList || text == state.longCode.toList

/-- The known state with a code, which is given in upper case. -/
def ofUpperCase? (text : List Char) : Option JobState := known.find? (·.hasCode text)

/-- The state that a text denotes. -/
def ofText (text : String) : JobState :=
  let word := Text.trim text.toList
  (ofUpperCase? (Text.upperCase word)).getD (unknown (String.ofList word))

/-- Whether a job in this state waits for an allocation. -/
def isPending (state : JobState) : Bool := state == pending

end JobState

/-! ### Lists of states -/

/-- The entries of a comma-separated list of states, without blanks around them; empty entries
do not count. -/
def stateEntries (text : String) : List (List Char) :=
  ((Text.splitAt ',' text.toList).map Text.trim).filter (!·.isEmpty)

/-- The states that a list selects.  A list without entries, or with the entry `all` in any case,
selects every state and has the value `none`. -/
def readStates (text : String) : Option (List JobState) :=
  let entries := stateEntries text
  if entries.isEmpty || entries.any (Text.asciiLowerCase · == ['a', 'l', 'l']) then none
  else some (entries.map fun entry => JobState.ofText (String.ofList entry))

end NodeDemand
