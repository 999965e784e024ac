/-
# Reading the command line

The words before the task and those after it are read one after the other.  A value stands behind
an equals sign, or is the next word.  In the second case it is looked at only when the next switch
comes or the words end, so a word that has no place is reported before a bad value just before it.

Variables of the environment stand for switches that are not given.
-/
import NodeDemand.Options.Switch

namespace NodeDemand.Options

/-! ### Words -/

/-- A word of the command line. -/
inductive Word where
  /-- Two hyphens: no switches follow. -/
  | ending
  /-- A switch by its name, with the value behind the equals sign if there is one. -/
  | long (name : String) (value : Option String)
  /-- A hyphen with letters. -/
  | short (letters : List Char)
  /-- Any other word. -/
  | plain
deriving DecidableEq, Repr

/-- The value behind an equals sign. -/
def valueBehind : List Char → Option String
  | [] => none
  | _ :: value => some (String.ofList value)

/-- What a word is. -/
def Word.ofText : List Char → Word
  | ['-', '-'] => ending
  | '-' :: '-' :: rest =>
    long (String.ofList (rest.takeWhile (· != '='))) (valueBehind (rest.dropWhile (· != '=')))
  | '-' :: c :: letters => short (c :: letters)
  | _ => plain

/-- The digits and whatever else follows in a number that begins with a digit. -/
def isNumberTail (dotted scaled : Bool) : List Char → Bool
  | [] => true
  | c :: rest =>
    if c.isDigit then isNumberTail dotted scaled rest
    else if c = '.' then !dotted && !scaled && isNumberTail true scaled rest
    else if c = 'e' then !scaled && !rest.isEmpty && isNumberTail dotted true rest
    else false

/-- Whether a text is a number without a sign. -/
def isNumber : List Char → Bool
  | [] => true
  | c :: rest => c.isDigit && isNumberTail false false rest

/-! ### Reading one level -/

/-- How far the words of a level have been read. -/
structure Scan where
  /-- What the switches say. -/
  given : Given := {}
  /-- The switches that have been given. -/
  seen : List Switch := []
  /-- The last switch if its value is the next word, and that word once it has been read. -/
  waiting : Option (Switch × Option String) := none
deriving DecidableEq, Repr

namespace Scan

/-- Whether a value has to follow. -/
def needsValue (scan : Scan) : Bool :=
  match scan.waiting with
  | some (_, none) => true
  | _ => false

/-- Takes a switch with its value. -/
def give (scan : Scan) (switch : Switch) (value : String) : Except Halt Scan :=
  if scan.seen.contains switch && !switch.isRepeatable then .error .conflict
  else
    (switch.set value scan.given).map fun given =>
      { scan with given, seen := scan.seen ++ [switch] }

/-- Takes the switch whose value has been put off. -/
def settle (scan : Scan) : Except Halt Scan :=
  match scan.waiting with
  | none => .ok scan
  | some (_, none) => .error .invalidValue
  | some (switch, some value) => { scan with waiting := none }.give switch value

/-- Takes a switch without value. -/
def flag (scan : Scan) (switch : Switch) : Except Halt Scan :=
  scan.settle.bind (·.give switch "true")

/-- Takes a switch by its name. -/
def long (command : Option Command) (name : String) (value : Option String) (scan : Scan) :
    Except Halt Scan :=
  match Switch.ofName? command name with
  | none => .error .unknownArgument
  | some switch =>
    if switch.takesValue then
      match value with
      | some value => scan.settle.bind (·.give switch value)
      | none => scan.settle.map fun scan => { scan with waiting := some (switch, none) }
    else if value.isSome then .error .tooManyValues
    else scan.flag switch

/-- Takes a hyphen with letters: a switch, or a negative number where one may follow. -/
def short (command : Option Command) (letters : List Char) (scan : Scan) : Except Halt Scan :=
  if scan.waiting = some (.gpusPerNode, none) ∧ isNumber letters = true then
    .ok { scan with waiting := some (.gpusPerNode, some (String.ofList ('-' :: letters))) }
  else
    match letters.head?.bind (Switch.ofLetter? command) with
    | none => .error .unknownArgument
    | some switch => scan.flag switch

/-- Why a word that is no switch has no place. -/
def stray (command : Option Command) : Halt :=
  if command.isNone then .invalidCommand else .unknownArgument

/-- Takes a word that is no switch: the value that has to follow. -/
def plain (command : Option Command) (word : String) (scan : Scan) : Except Halt Scan :=
  match scan.waiting with
  | some (switch, none) => .ok { scan with waiting := some (switch, some word) }
  | _ => .error (stray command)

/-- Takes the words after two hyphens, which have no place. -/
def rest (command : Option Command) (words : List String) (scan : Scan) : Except Halt Scan :=
  match words with
  | [] => .ok scan
  | word :: _ =>
    if (Command.ofName? word).isSome then .error .unknownArgument else .error (stray command)

/-- Takes the words of a level: those before a task, up to the task, or those after it.  Yields also
the task and the words after it. -/
def read (command : Option Command) (scan : Scan) :
    List String → Except Halt (Scan × Option (Command × List String))
  | [] => .ok (scan, none)
  | word :: words =>
    match if command.isNone && !scan.needsValue then Command.ofName? word else none with
    | some task => .ok (scan, some (task, words))
    | none =>
      match Word.ofText word.toList with
      | .ending => (scan.rest command words).map (·, none)
      | .long name value => (scan.long command name value).bind (read command · words)
      | .short letters => (scan.short command letters).bind (read command · words)
      | .plain => (scan.plain command word).bind (read command · words)

end Scan

/-! ### The environment -/

/-- The variables of the environment that matter. -/
structure Environment where
  /-- The form of what is printed. -/
  outputMode : Option String := none
  /-- Whether more is reported. -/
  debug : Option String := none
  /-- The gateway program. -/
  squeue : Option String := none
  /-- What is reported. -/
  log : Option String := none
deriving DecidableEq, Repr

namespace Environment

/-- The switches that variables stand for, with their values. -/
def switches (env : Environment) : List (Switch × String) :=
  (env.outputMode.map (Switch.outputMode, ·)).toList ++
    (env.debug.map (Switch.debug, ·)).toList ++ (env.squeue.map (Switch.squeue, ·)).toList

/-- What the variables say about switches that are not given. -/
def read (env : Environment) (seen : List Switch) : Except Halt Given :=
  (env.switches.filter fun s => !seen.contains s.1).foldlM (fun given s => s.1.set s.2 given) {}

end Environment

/-! ### Options -/

/-- The request that the switches of a task make. -/
def Given.request (given : Given) : Command → Request
  | .pending =>
    .pending
      { input := given.input
        invalidFields := given.invalidFields
        config := given.config
        nodeSlots := given.nodeSlots
        gpusPerNode := given.gpusPerNode
        maxSlots := given.maxSlots
        maxNodes := given.maxNodes
        reasons := given.reasons
        resourceReasons := given.resourceReasons }
  | .jobs =>
    .jobs { input := given.input, invalidFields := given.invalidFields, states := given.states }

/-- The options that the switches after a task, those before it, and variables say, each of these
only where the ones before it are silent. -/
def ofGiven (command : Command) (after before environment : Given) : Options where
  colors := (after.colors.or (before.colors.or environment.colors)).getD .auto
  form := (after.form.or (before.form.or environment.form)).getD .grid
  debug := (after.debug.or (before.debug.or environment.debug)).getD false
  gateway := ((after.program.or (before.program.or environment.program)).map Gateway.mk).getD {}
  request := after.request command

/-- The options that the words of a command line say. -/
def read (env : Environment) (words : List String) : Except Halt Options := do
  let (before, task) ← Scan.read none {} words
  match task with
  | none =>
    let before ← before.settle
    let _ ← env.read before.seen
    throw (if before.seen.isEmpty && env.switches.isEmpty then .noArguments else .missingCommand)
  | some (command, words) =>
    let (after, _) ← Scan.read (some command) {} words
    let after ← after.settle
    let environment ← env.read after.seen
    let before ← before.settle
    let _ ← env.read before.seen
    return ofGiven command after.given before.given environment

end NodeDemand.Options
