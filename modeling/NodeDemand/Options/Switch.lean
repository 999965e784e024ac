/-
# Switches of the command line

A switch is an option by its name.  Some switches take a value, and each says which values it
takes.  Switches about printing, reporting and the gateway may stand before or after the task; all
others belong to a task and stand after it.
-/
import NodeDemand.Options.Basic

namespace NodeDemand.Options

/-- A switch. -/
inductive Switch where
  | colors
  | outputMode
  | debug
  | squeue
  | input
  | invalidFields
  | config
  | nodeSlots
  | gpusPerNode
  | maxSlots
  | maxNodes
  | reason
  | resourceReasons
  | states
  | help
  | version
deriving DecidableEq, Repr

/-- Why a command line is not followed. -/
inductive Halt where
  /-- A word has no place in the command line. -/
  | unknownArgument
  /-- The task does not exist. -/
  | invalidCommand
  /-- There is no task, though there are options. -/
  | missingCommand
  /-- There is nothing at all. -/
  | noArguments
  /-- A switch is given twice. -/
  | conflict
  /-- A switch that takes no value has one. -/
  | tooManyValues
  /-- A switch has no value, or none of the values that it takes. -/
  | invalidValue
  /-- A switch has a value that is no number, or one out of range. -/
  | refusedValue
  /-- Help is asked for. -/
  | help
  /-- The version is asked for. -/
  | version
deriving DecidableEq, Repr

/-- What the switches of a command line say. -/
structure Given where
  /-- When colours are used. -/
  colors : Option Colors := none
  /-- The form of what is printed. -/
  form : Option Report.Form := none
  /-- Whether more is reported. -/
  debug : Option Bool := none
  /-- The gateway program. -/
  program : Option String := none
  /-- The file with a captured table. -/
  input : Option String := none
  /-- What a cell that cannot be read does. -/
  invalidFields : Option Policy := none
  /-- The file with the description of the cluster. -/
  config : Option String := none
  /-- The number of CPU slots of a node. -/
  nodeSlots : Option UInt64 := none
  /-- The number of graphics processors of a node. -/
  gpusPerNode : Option Int64 := none
  /-- The greatest number of CPUs that a job may need on a node. -/
  maxSlots : Option UInt64 := none
  /-- The greatest number of nodes that a job may need. -/
  maxNodes : Option UInt64 := none
  /-- The pending reasons that select jobs, in the order in which they are given. -/
  reasons : List String := []
  /-- Whether waiting for resources selects a job. -/
  resourceReasons : Bool := false
  /-- The states that select jobs. -/
  states : Option String := none
deriving DecidableEq, Repr

/-! ### Values -/

/-- A choice by its name. -/
def choice {α : Type} (value : Option α) : Except Halt α :=
  match value with
  | none => .error .invalidValue
  | some a => .ok a

/-- The path of a file or program, which is not empty. -/
def path (value : String) : Except Halt String :=
  if value.isEmpty then .error .invalidValue else .ok value

/-- A positive count. -/
def positive (value : String) : Except Halt UInt64 :=
  match Decimal.countOfField value.toList with
  | .error _ => .error .refusedValue
  | .ok n => if n = 0 then .error .refusedValue else .ok n

/-- The whole number that digits with a sign are, if it fits into 64 bits. -/
def signed? : List Char → Option Int64
  | '-' :: digits =>
    if digits.isEmpty || digits.any (!·.isDigit) then none
    else if Int64.minValue.toInt ≤ -(Decimal.value digits : Int) then
      some (Int64.ofInt (-(Decimal.value digits : Int)))
    else none
  | '+' :: digits => unsigned? digits
  | digits => unsigned? digits
where
  /-- The whole number that digits are, if it fits into 64 bits. -/
  unsigned? (digits : List Char) : Option Int64 :=
    if digits.isEmpty || digits.any (!·.isDigit) then none
    else if (Decimal.value digits : Int) ≤ Int64.maxValue.toInt then
      some (Int64.ofInt (Decimal.value digits : Int))
    else none

/-- A whole number. -/
def signed (value : String) : Except Halt Int64 :=
  match signed? value.toList with
  | none => .error .refusedValue
  | some n => .ok n

/-- A truth value by its name. -/
def truth? (value : String) : Option Bool :=
  if value = "true" then some true else if value = "false" then some false else none

namespace Switch

/-- All switches. -/
def all : List Switch :=
  [colors, outputMode, debug, squeue, input, invalidFields, config, nodeSlots, gpusPerNode,
    maxSlots, maxNodes, reason, resourceReasons, states, help, version]

/-- The name of a switch, without the hyphens before it. -/
def name : Switch → String
  | colors => "colors"
  | outputMode => "output-mode"
  | debug => "debug"
  | squeue => "squeue"
  | input => "input"
  | invalidFields => "invalid-fields"
  | config => "config"
  | nodeSlots => "node-slots"
  | gpusPerNode => "gpus-per-node"
  | maxSlots => "max-slots"
  | maxNodes => "max-nodes"
  | reason => "reason"
  | resourceReasons => "resource-reasons"
  | states => "states"
  | help => "help"
  | version => "version"

/-- The letter for which a switch is known too. -/
def letter? : Switch → Option Char
  | help => some 'h'
  | version => some 'V'
  | _ => none

/-- Whether a switch takes a value. -/
def takesValue : Switch → Bool
  | debug => false
  | resourceReasons => false
  | help => false
  | version => false
  | _ => true

/-- Whether a switch may be given more than once. -/
def isRepeatable (switch : Switch) : Bool := switch == reason

/-- Whether a switch stands after a task, or before it if none is given. -/
def isKnown (command : Option Command) (switch : Switch) : Bool :=
  match switch, command with
  | colors, _ => true
  | outputMode, _ => true
  | debug, _ => true
  | squeue, _ => true
  | help, _ => true
  | version, none => true
  | version, some _ => false
  | _, none => false
  | input, some _ => true
  | invalidFields, some _ => true
  | states, some command => command == .jobs
  | _, some command => command == .pending

/-- The switch with a name. -/
def ofName? (command : Option Command) (name : String) : Option Switch :=
  all.find? fun switch => switch.name == name && switch.isKnown command

/-- The switch with a letter. -/
def ofLetter? (command : Option Command) (letter : Char) : Option Switch :=
  all.find? fun switch => switch.letter? == some letter && switch.isKnown command

/-- What is said with the value of a switch set. -/
def set (switch : Switch) (value : String) (given : Given) : Except Halt Given :=
  match switch with
  | colors => (choice (Colors.ofName? value)).map fun c => { given with colors := some c }
  | outputMode => (choice (Report.Form.ofName? value)).map fun f => { given with form := some f }
  | debug => (choice (truth? value)).map fun b => { given with debug := some b }
  | squeue => (path value).map fun p => { given with program := some p }
  | input => (path value).map fun p => { given with input := some p }
  | invalidFields =>
    (choice (Policy.ofName? value)).map fun p => { given with invalidFields := some p }
  | config => (path value).map fun p => { given with config := some p }
  | nodeSlots => (positive value).map fun n => { given with nodeSlots := some n }
  | gpusPerNode => (signed value).map fun n => { given with gpusPerNode := some n }
  | maxSlots => (positive value).map fun n => { given with maxSlots := some n }
  | maxNodes => (positive value).map fun n => { given with maxNodes := some n }
  | reason => .ok { given with reasons := given.reasons ++ [value] }
  | resourceReasons => .ok { given with resourceReasons := true }
  | states => .ok { given with states := some value }
  | help => .error .help
  | version => .error .version

end Switch

end NodeDemand.Options
