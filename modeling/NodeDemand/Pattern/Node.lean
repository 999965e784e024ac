/-
# Patterns as they are written

A pattern is a choice between sequences of parts.  Every part keeps the place in the text that it
was read from, so that a fault that shows only in the light of the flags can point at it.
-/
import NodeDemand.Pattern.CharSet
import NodeDemand.Pattern.Fault

namespace NodeDemand.Pattern

/-- A character that stands for itself. -/
structure Literal where
  /-- Where it stands. -/
  span : Span
  /-- The character. -/
  char : Char
  /-- Whether it is written as a byte, with two hexadecimal digits. -/
  isByte : Bool := false
deriving DecidableEq, Repr

/-- The classes that have a letter behind a backslash. -/
inductive Shorthand where
  | digit
  | space
  | word
deriving DecidableEq, Repr

/-- How the sets on the two sides of a double sign are combined. -/
inductive Combination where
  | intersection
  | difference
  | symmetricDifference
deriving DecidableEq, Repr

/-- A set of characters between brackets. -/
inductive Members where
  | literal (literal : Literal)
  | range (low high : Literal)
  /-- A set by its name. -/
  | named (span : Span) (set : CharSet) (negated : Bool)
  | shorthand (span : Span) (shorthand : Shorthand) (negated : Bool)
  | property (span : Span) (name : List Char)
  | brackets (span : Span) (negated : Bool) (members : Members)
  | union (span : Span) (parts : List Members)
  | combined (combination : Combination) (left right : Members)
deriving Repr

namespace Members

/-- Where a set stands. -/
def span : Members → Span
  | .literal c => c.span
  | range low high => ⟨low.span.start, high.span.stop⟩
  | named span .. | shorthand span .. | property span .. | brackets span .. | union span _ => span
  | combined _ left right => ⟨left.span.start, right.span.stop⟩

/-- The set of the members that are written one behind the other from a place on. -/
def ofParts (place : Place) : List Members → Members
  | [] => union ⟨place, place⟩ []
  | [single] => single
  | first :: rest => union ⟨first.span.start, (rest.getLastD first).span.stop⟩ (first :: rest)

end Members

/-- The flags that change what a pattern says. -/
inductive Flag where
  /-- Letters stand for both cases. -/
  | ignoreCase
  /-- The signs for start and end stand for those of a line. -/
  | multiLine
  /-- The dot stands for line ends too. -/
  | dotAll
  /-- Repetitions are short unless they are marked. -/
  | swapGreed
  /-- Classes are those of all scripts. -/
  | unicode
  /-- A carriage return belongs to a line end. -/
  | crlf
  /-- Blanks and comments are passed over. -/
  | spaced
deriving DecidableEq, Repr

/-- Flags that are set or taken back. -/
abbrev Settings := List (Flag × Bool)

/-- A condition on a place. -/
inductive Anchor where
  /-- The start of the text, or of a line. -/
  | lineStart
  /-- The end of the text, or of a line. -/
  | lineEnd
  | textStart
  | textEnd
  /-- An edge of a word. -/
  | wordEdge
  | noWordEdge
  | wordStart
  | wordEnd
  /-- There is no word before the place. -/
  | wordStartHalf
  /-- There is no word behind the place. -/
  | wordEndHalf
deriving DecidableEq, Repr

/-- A part of a pattern. -/
inductive Node where
  | empty (span : Span)
  /-- Flags for the rest of the group. -/
  | settings (span : Span) (settings : Settings)
  | literal (literal : Literal)
  | dot (span : Span)
  | anchor (span : Span) (anchor : Anchor)
  | shorthand (span : Span) (shorthand : Shorthand) (negated : Bool)
  | property (span : Span) (name : List Char)
  | brackets (members : Members)
  | repeated (span : Span) (least : Nat) (most : Option Nat) (node : Node)
  /-- A group whose match is remembered. -/
  | capture (span : Span) (node : Node)
  /-- A group with flags of its own. -/
  | scope (span : Span) (settings : Settings) (node : Node)
  | choice (span : Span) (branches : List Node)
  | sequence (span : Span) (parts : List Node)
deriving Repr

namespace Node

/-- Where a part stands. -/
def span : Node → Span
  | .literal c => c.span
  | .brackets members => members.span
  | empty span | settings span _ | dot span | anchor span _ | shorthand span .. | property span _
  | repeated span .. | capture span _ | scope span .. | choice span _
  | sequence span _ => span

/-- The parts that are written one behind the other within a span. -/
def ofParts (span : Span) : List Node → Node
  | [] => empty span
  | [single] => single
  | parts => sequence span parts

/-- The branches that are written within a span. -/
def ofBranches (span : Span) : List Node → Node
  | [single] => single
  | branches => choice span branches

/-- Whether a part may be repeated. -/
def isRepeatable : Node → Bool
  | empty _ | settings .. => false
  | _ => true

end Node

/-! ### Depth -/

mutual

/-- The first part that stands deeper than `left` levels in a set. -/
def Members.tooDeep? : Nat → Members → Option Span
  | _, .literal _ | _, .range .. | _, .named .. | _, .shorthand .. | _, .property .. => none
  | _, .union _ [] => none
  | 0, .brackets span .. | 0, .union span _ => some span
  | 0, .combined combination left right => some (Members.combined combination left right).span
  | left + 1, .brackets _ _ members => members.tooDeep? left
  | left + 1, .union _ parts => Members.anyTooDeep? left parts
  | left + 1, .combined _ first second => (first.tooDeep? left).or (second.tooDeep? left)

/-- The first part that stands deeper than `left` levels in one of some sets. -/
def Members.anyTooDeep? : Nat → List Members → Option Span
  | _, [] => none
  | left, part :: rest => (part.tooDeep? left).or (Members.anyTooDeep? left rest)

end

mutual

/-- The first part that stands deeper than `left` levels in a pattern. -/
def Node.tooDeep? : Nat → Node → Option Span
  | _, .empty _ | _, .settings .. | _, .literal _ | _, .dot _ | _, .anchor .. | _, .shorthand ..
  | _, .property .. => none
  | left, .brackets members => members.tooDeep? left
  | 0, .repeated span .. | 0, .capture span _ | 0, .scope span .. | 0, .choice span _
  | 0, .sequence span _ => some span
  | left + 1, .repeated _ _ _ node | left + 1, .capture _ node | left + 1, .scope _ _ node =>
    node.tooDeep? left
  | left + 1, .choice _ nodes | left + 1, .sequence _ nodes => Node.anyTooDeep? left nodes

/-- The first part that stands deeper than `left` levels in one of some parts. -/
def Node.anyTooDeep? : Nat → List Node → Option Span
  | _, [] => none
  | left, node :: rest => (node.tooDeep? left).or (Node.anyTooDeep? left rest)

end

end NodeDemand.Pattern
