/-
# From what is written to what is said

The parts of a written pattern get their meaning from the flags that hold where they stand.  A flag
that is set in a sequence holds up to the end of the group, through later branches too.  Where the
flags ask for characters beyond ASCII, only characters, ranges and the dot are at hand: there are no
tables of classes, of cases, or of words of all scripts.
-/
import NodeDemand.Pattern.Expr
import NodeDemand.Pattern.Reader
import NodeDemand.Text.UpperCase

namespace NodeDemand.Pattern

/-- The flags that hold somewhere in a pattern. -/
structure Flags where
  /-- Letters stand for both cases. -/
  ignoreCase : Bool := false
  /-- The signs for start and end stand for those of a line. -/
  multiLine : Bool := false
  /-- The dot stands for line ends too. -/
  dotAll : Bool := false
  /-- Classes are those of all scripts. -/
  unicode : Bool := true
  /-- A carriage return belongs to a line end. -/
  crlf : Bool := false
deriving DecidableEq, Repr

namespace Flags

/-- The flags after one of them is set or taken back. -/
def set (flags : Flags) : Flag × Bool → Flags
  | (.ignoreCase, value) => { flags with ignoreCase := value }
  | (.multiLine, value) => { flags with multiLine := value }
  | (.dotAll, value) => { flags with dotAll := value }
  | (.unicode, value) => { flags with unicode := value }
  | (.crlf, value) => { flags with crlf := value }
  | (.swapGreed, _) | (.spaced, _) => flags

/-- The flags after settings. -/
def apply (flags : Flags) (settings : Settings) : Flags := settings.foldl set flags

/-! ### Sets -/

/-- A set with both cases of its letters, if the flags ask for them. -/
def folded (flags : Flags) (span : Span) (set : CharSet) : Except Fault CharSet :=
  if !flags.ignoreCase then .ok set
  else if !flags.unicode then .ok set.foldAscii
  else if set.isEmpty then .ok set
  else refuse .caseUnavailable span

/-- A set that is written in brackets, which may be negated. -/
def closed (flags : Flags) (span : Span) (negated : Bool) (set : CharSet) :
    Except Fault CharSet :=
  (flags.folded span set).bind fun set =>
    let set := if negated then set.complement else set
    if flags.unicode || set.isAscii then .ok set else refuse .notText span

/-- A character, unless it is a byte beyond ASCII that stands for itself. -/
def charOf (flags : Flags) (literal : Literal) : Except Fault Char :=
  if !flags.unicode && literal.isByte && decide (0x80 ≤ literal.char.toNat) then
    refuse .notText literal.span
  else .ok literal.char

/-- A character as a member of a set. -/
def memberOf (flags : Flags) (literal : Literal) : Except Fault Char :=
  (flags.charOf literal).bind fun c =>
    if flags.unicode || decide (c.toNat < 0x80) then .ok c else refuse .beyondAscii literal.span

/-- The set of a character that stands for itself. -/
def literalSet (flags : Flags) (literal : Literal) : Except Fault CharSet :=
  (flags.charOf literal).bind fun c => flags.folded literal.span (.single c)

/-- The ASCII characters of a class. -/
def asciiClass : Shorthand → CharSet
  | .digit => [(0x30, 0x39)]
  | .space => [(0x09, 0x0D), (0x20, 0x20)]
  | .word => [(0x30, 0x39), (0x41, 0x5A), (0x5F, 0x5F), (0x61, 0x7A)]

/-- The set of a class. -/
def shorthandSet (flags : Flags) (span : Span) (shorthand : Shorthand) (negated : Bool) :
    Except Fault CharSet :=
  if flags.unicode then refuse .shorthandUnavailable span
  else if negated then refuse .notText span
  else .ok (asciiClass shorthand)

/-- The name of a property in its plainest form: in lower case, without signs between its words,
and without the word that says that it is one. -/
def plainName (name : List Char) : List Char :=
  let lower := Text.asciiLowerCase name
  let bare := if lower.take 2 = ['i', 's'] then lower.drop 2 else lower
  bare.filter fun c => c != ' ' && c != '_' && c != '-' && decide (c.toNat < 0x80)

/-- The names of general categories that are the short names of properties, too. -/
def categoryNames : List (List Char) := [['c', 'f'], ['s', 'c'], ['l', 'c']]

/-- The set of the characters with a property, of which none is known. -/
def propertySet (flags : Flags) (span : Span) (name : List Char) : Except Fault CharSet :=
  if !flags.unicode then refuse .beyondAscii span
  else if categoryNames.contains (plainName name) then refuse .propertyValueUnknown span
  else refuse .propertyUnknown span

/-- The set that the dot stands for. -/
def dotSet (flags : Flags) (span : Span) : Except Fault CharSet :=
  if !flags.unicode then refuse .notText span
  else if flags.dotAll then .ok (CharSet.complement [])
  else if flags.crlf then .ok (CharSet.complement [(0x0A, 0x0A), (0x0D, 0x0D)])
  else .ok (CharSet.complement [(0x0A, 0x0A)])

/-- The condition that an anchor stands for. -/
def look (flags : Flags) : Anchor → Look
  | .lineStart => if flags.multiLine then .lineStart flags.crlf else .textStart
  | .lineEnd => if flags.multiLine then .lineEnd flags.crlf else .textEnd
  | .textStart => .textStart
  | .textEnd => .textEnd
  | .wordEdge => .edge flags.unicode .any
  | .noWordEdge => .edge flags.unicode .none
  | .wordStart => .edge flags.unicode .start
  | .wordEnd => .edge flags.unicode .stop
  | .wordStartHalf => .edge flags.unicode .startHalf
  | .wordEndHalf => .edge flags.unicode .stopHalf

end Flags

/-- Two sets combined. -/
def Combination.apply : Combination → CharSet → CharSet → CharSet
  | intersection => CharSet.intersection
  | difference => CharSet.difference
  | symmetricDifference => CharSet.symmetricDifference

mutual

/-- The set that is written in brackets. -/
def Members.set (flags : Flags) : Members → Except Fault CharSet
  | .literal c => (flags.memberOf c).map .single
  | .range low high => do return .between (← flags.memberOf low) (← flags.memberOf high)
  | .named span cs negated => flags.closed span negated cs
  | .shorthand span kind negated => flags.shorthandSet span kind negated
  | .property span name => flags.propertySet span name
  | .brackets span negated members => (members.set flags).bind (flags.closed span negated)
  | .union _ parts => Members.setOfAll flags parts
  | .combined combination left right => do
    let first ← left.set flags
    let second ← right.set flags
    let second ← flags.folded right.span second
    return combination.apply (← flags.folded left.span first) second

/-- The union of sets that are written one behind the other. -/
def Members.setOfAll (flags : Flags) : List Members → Except Fault CharSet
  | [] => .ok []
  | part :: rest => do return (← part.set flags).union (← Members.setOfAll flags rest)

end

mutual

/-- What a part of a pattern says under flags, and the flags behind it. -/
def Node.expr (flags : Flags) : Node → Except Fault (Expr × Flags)
  | .empty _ => .ok (.empty, flags)
  | .settings _ changes => .ok (.empty, flags.apply changes)
  | .literal c => (flags.literalSet c).map (.set ·, flags)
  | .dot span => (flags.dotSet span).map (.set ·, flags)
  | .anchor _ a => .ok (.look (flags.look a), flags)
  | .shorthand span kind negated =>
    (flags.shorthandSet span kind negated).map (.set ·, flags)
  | .property span name => (flags.propertySet span name).map (.set ·, flags)
  | .brackets members => (members.set flags).map (.set ·, flags)
  | .repeated _ least most node =>
    (node.expr flags).map fun (e, flags) => (.repeat? least most e, flags)
  | .capture _ node => (node.expr flags).map fun (e, _) => (.group e, flags)
  | .scope _ changes node => (node.expr (flags.apply changes)).map fun (e, _) => (e, flags)
  | .choice _ branches =>
    (Node.exprs flags branches).map fun (es, flags) => (.ofBranches es, flags)
  | .sequence _ parts => (Node.exprs flags parts).map fun (es, flags) => (.ofParts es, flags)

/-- What parts say one after the other under flags, and the flags behind them. -/
def Node.exprs (flags : Flags) : List Node → Except Fault (List Expr × Flags)
  | [] => .ok ([], flags)
  | node :: rest =>
    (node.expr flags).bind fun (e, flags) =>
      (Node.exprs flags rest).map fun (es, flags) => (e :: es, flags)

end

/-! ### The pattern of a text -/

/-- Why a text is no pattern. -/
inductive Refusal where
  /-- A part of it is at fault. -/
  | fault (text : List Char) (fault : Fault)
  /-- A machine for it takes more room than there is. -/
  | tooLarge (limit : Nat)
  /-- It needs the words of all scripts. -/
  | wordsUnavailable
deriving DecidableEq, Repr

/-- What is said about a text that is no pattern. -/
def Refusal.message : Refusal → String
  | .fault text f => f.message text
  | tooLarge limit =>
    "Compiled regex exceeds size limit of " ++ Decimal.text limit ++ " bytes."
  | wordsUnavailable => "error building NFA"

/-- The room that a machine may take. -/
def roomLimit : Nat := 10 * 1024 * 1024

/-- The room that a machine takes besides that for its pattern. -/
def frameRoom : Nat := 4 * Expr.stateRoom + Expr.forkRoom

/-- The pattern that a text writes. -/
def Expr.ofText (text : List Char) : Except Refusal Expr :=
  match (Node.ofText text).bind (·.expr {}) with
  | .error fault => .error (.fault text fault)
  | .ok (e, _) =>
    if roomLimit < e.room + frameRoom then .error (.tooLarge roomLimit)
    else if e.usesAllScripts then .error .wordsUnavailable
    else .ok e

end NodeDemand.Pattern
