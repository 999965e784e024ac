/-
# Programs and files

The library reaches the outside world in two ways: it reads files, and it runs the gateway program
that prints the job table.  Both are given as functions that say what the world answers, so what
the library does with the answers is an ordinary function.
-/
import NodeDemand.Failure
import NodeDemand.Notice

namespace NodeDemand

/-- What the outside world answers. -/
structure World where
  /-- The bytes of a file. -/
  file : String → Except IoFault (List UInt8)
  /-- What is left by a program that is run with arguments. -/
  run : List String → Except IoFault Run

/-- Whether a text can be handed to the outside world, where the character zero ends texts. -/
def isPassable (text : String) : Bool := text.toList.all (· != '\x00')

namespace World

/-- The bytes of a file, if its name can be handed over. -/
def readFile (world : World) (path : String) : Except IoFault (List UInt8) :=
  if isPassable path then world.file path else .error .zeroInName

/-- What a command leaves, if its words can be handed over. -/
def runCommand (world : World) (command : List String) : Except IoFault Run :=
  if command.all isPassable then world.run command else .error .zeroInWord

/-- The text of a file. -/
def readText (world : World) (path : String) : Except Failure String :=
  match world.readFile path with
  | .error fault => .error (.io fault)
  | .ok bytes =>
    match Utf8.decode bytes with
    | .error _ => .error (.io .notText)
    | .ok text => .ok (String.ofList text)

end World

/-- Accepts what a program left only if it ended well. -/
def Run.check (program : String) (run : Run) : Except Failure Run :=
  if run.ending = .exited 0 then .ok run else .error (.command program (.failed run))

/-- The text that a program printed, if it ended well and printed text. -/
def Run.text (program : String) (run : Run) : Except Failure String :=
  match run.check program with
  | .error failure => .error failure
  | .ok run =>
    match Utf8.decode run.stdout with
    | .error error => .error (.command program (.notText error))
    | .ok text => .ok (String.ofList text)

namespace World

/-- The text that a command prints; its first word is the program. -/
def capture (world : World) (command : List String) : Reported Notice (Except Failure String) :=
  let text :=
    match world.runCommand command with
    | .error fault => .error (.io fault)
    | .ok run => run.text (command.headD "")
  ⟨text, [.runningCommand command]⟩

end World

/-- A program that prints the table of jobs. -/
structure Gateway where
  /-- The name or path of the program. -/
  program : String := "squeue"
deriving DecidableEq, Repr

namespace Gateway

/-- The columns and widths that the program is asked for. -/
def format : String :=
  ",".intercalate
    (Column.all.map fun column => column.field ++ ":" ++ Decimal.text Table.cellWidth)

/-- The list of states that selects pending jobs. -/
def pendingStates : String := JobState.pending.code

/-- The command that prints the table of the jobs in given states, or of all jobs. -/
def command (gateway : Gateway) (states : Option String) : List String :=
  [gateway.program, "-r", "-O", format] ++ states.elim [] (["--states", ·])

end Gateway

end NodeDemand
