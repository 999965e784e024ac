/-
# Faults of a pattern

A pattern is refused for a flaw in some part of its text.  What is said about a fault shows the
pattern, points at that part, and names the flaw; for a flaw that repeats an earlier part of the
pattern the earlier part is pointed at as well.
-/
import NodeDemand.Text.Decimal
import NodeDemand.Text.Lines

namespace NodeDemand.Pattern

/-- A place between two characters of a text: its line and its column, both counted from one. -/
structure Place where
  /-- The line. -/
  line : Nat := 1
  /-- The column. -/
  column : Nat := 1
deriving DecidableEq, Repr

/-- The place behind a character. -/
def Place.past (place : Place) (c : Char) : Place :=
  if c = '\n' then ⟨place.line + 1, 1⟩ else ⟨place.line, place.column + 1⟩

/-- A part of a text. -/
structure Span where
  /-- Where it starts. -/
  start : Place
  /-- Where it ends. -/
  stop : Place
deriving DecidableEq, Repr

/-- What may be wrong with a part of a pattern. -/
inductive Flaw where
  /-- An escape that is no character has no place in brackets. -/
  | escapeInBrackets
  /-- A range of characters ends before it starts. -/
  | rangeOrder
  /-- A range of characters has an end that is no character. -/
  | rangeEnd
  | bracketsUnclosed
  /-- A number is too great. -/
  | numberTooGreat
  | hexEmpty
  /-- The hexadecimal number is no character. -/
  | hexNoCharacter
  | hexDigit
  /-- The pattern ends in an escape. -/
  | escapeUnfinished
  | escapeUnknown
  /-- A minus sign among flags is followed by none. -/
  | negationDangling
  | negationRepeated (earlier : Span)
  | flagRepeated (earlier : Span)
  /-- The pattern ends among flags. -/
  | flagsUnfinished
  | flagUnknown
  | nameRepeated (earlier : Span)
  | nameEmpty
  | nameCharacter
  /-- The pattern ends in the name of a group. -/
  | nameUnfinished
  | groupUnclosed
  /-- A parenthesis closes no group. -/
  | groupUnopened
  /-- The pattern is nested more deeply than the limit. -/
  | nesting (limit : Nat)
  /-- The bounds of a repetition are in the wrong order. -/
  | countOrder
  | countEmpty
  | countUnclosed
  /-- There is nothing that could be repeated. -/
  | nothingToRepeat
  | edgeUnclosed
  | edgeUnknown
  /-- The pattern ends in the braces behind a word edge. -/
  | edgeUnfinished
  | propertyName
  | backreference
  | lookAround
  /-- A character beyond ASCII stands where only ASCII may. -/
  | beyondAscii
  /-- The part may hold bytes that are no characters. -/
  | notText
  | propertyUnknown
  | propertyValueUnknown
  /-- A class of the characters of all scripts is not at hand. -/
  | shorthandUnavailable
  /-- Upper and lower case of all scripts are not at hand. -/
  | caseUnavailable
deriving DecidableEq, Repr

namespace Flaw

/-- The name of a flaw. -/
def message : Flaw → String
  | escapeInBrackets => "invalid escape sequence found in character class"
  | rangeOrder => "invalid character class range, the start must be <= the end"
  | rangeEnd => "invalid range boundary, must be a literal"
  | bracketsUnclosed => "unclosed character class"
  | numberTooGreat => "decimal literal invalid"
  | hexEmpty => "hexadecimal literal empty"
  | hexNoCharacter => "hexadecimal literal is not a Unicode scalar value"
  | hexDigit => "invalid hexadecimal digit"
  | escapeUnfinished => "incomplete escape sequence, reached end of pattern prematurely"
  | escapeUnknown => "unrecognized escape sequence"
  | negationDangling => "dangling flag negation operator"
  | negationRepeated _ => "flag negation operator repeated"
  | flagRepeated _ => "duplicate flag"
  | flagsUnfinished => "expected flag but got end of regex"
  | flagUnknown => "unrecognized flag"
  | nameRepeated _ => "duplicate capture group name"
  | nameEmpty => "empty capture group name"
  | nameCharacter => "invalid capture group character"
  | nameUnfinished => "unclosed capture group name"
  | groupUnclosed => "unclosed group"
  | groupUnopened => "unopened group"
  | nesting limit =>
    "exceed the maximum number of nested parentheses/brackets (" ++ Decimal.text limit ++ ")"
  | countOrder => "invalid repetition count range, the start must be <= the end"
  | countEmpty => "repetition quantifier expects a valid decimal"
  | countUnclosed => "unclosed counted repetition"
  | nothingToRepeat => "repetition operator missing expression"
  | edgeUnclosed =>
    "special word boundary assertion is either unclosed or contains an invalid character"
  | edgeUnknown =>
    "unrecognized special word boundary assertion, valid choices are: " ++
      "start, end, start-half or end-half"
  | edgeUnfinished =>
    "found either the beginning of a special word boundary or a bounded repetition on a \\b " ++
      "with an opening brace, but no closing brace"
  | propertyName => "invalid Unicode character class"
  | backreference => "backreferences are not supported"
  | lookAround => "look-around, including look-ahead and look-behind, is not supported"
  | beyondAscii => "Unicode not allowed here"
  | notText => "pattern can match invalid UTF-8"
  | propertyUnknown => "Unicode property not found"
  | propertyValueUnknown => "Unicode property value not found"
  | shorthandUnavailable =>
    "Unicode-aware Perl class not found (make sure the unicode-perl feature is enabled)"
  | caseUnavailable =>
    "Unicode-aware case insensitivity matching is not available " ++
      "(make sure the unicode-case feature is enabled)"

/-- The earlier part of the pattern that a flaw repeats. -/
def earlier? : Flaw → Option Span
  | negationRepeated earlier | flagRepeated earlier | nameRepeated earlier => some earlier
  | _ => none

end Flaw

/-- A flaw of a part of a pattern. -/
structure Fault where
  /-- What is wrong. -/
  flaw : Flaw
  /-- The part. -/
  span : Span
deriving DecidableEq, Repr

namespace Fault

/-- The parts that a fault points at, in order. -/
def spans (fault : Fault) : List Span := fault.flaw.earlier?.toList ++ [fault.span]

/-- A line under another, with marks below parts of it. -/
def marks (parts : List Span) : List Char :=
  parts.foldl
    (fun line part =>
      line ++ List.replicate (part.start.column - 1 - line.length) ' ' ++
        List.replicate (max 1 (part.stop.column - part.start.column)) '^')
    []

/-- The lines that show a pattern, each with its number unless the width of numbers is zero, and
the marks under them. -/
def shownLines (fault : Fault) (width : Nat) (pattern : List Char) : List (List Char) :=
  (Text.lines pattern).zipIdx.flatMap fun (line, i) =>
    let number := Decimal.write (i + 1)
    let lead :=
      if width = 0 then List.replicate 4 ' '
      else List.replicate (width - number.length) ' ' ++ number ++ [':', ' ']
    let parts := fault.spans.filter fun part => part.start.line = i + 1 ∧ part.stop.line = i + 1
    let below :=
      if parts.isEmpty then [] else [List.replicate lead.length ' ' ++ marks parts]
    (lead ++ line) :: below

/-- How many columns the numbers of the lines take; a single line has no number. -/
def numberWidth (pattern : List Char) : Nat :=
  let count := (Text.lines pattern).length + if pattern.getLast? = some '\n' then 1 else 0
  if count ≤ 1 then 0 else (Decimal.write count).length

/-- Where a part of more than one line stands, in words. -/
def extent (part : Span) : String :=
  "on line " ++ Decimal.text part.start.line ++
    " (column " ++ Decimal.text part.start.column ++ ") through line " ++
    Decimal.text part.stop.line ++ " (column " ++ Decimal.text (part.stop.column - 1) ++ ")"

/-- What is said about a fault of a pattern. -/
def message (pattern : List Char) (fault : Fault) : String :=
  let shown := fault.shownLines (numberWidth pattern) pattern
  let divider := List.replicate 79 '~'
  let lines : List (List Char) :=
    if pattern.contains '\n' then
      divider :: shown ++ divider ::
        ((fault.spans.filter fun part => part.start.line ≠ part.stop.line).map
          (extent · |>.toList))
    else shown
  "regex parse error:\n" ++ String.join (lines.map (String.ofList · ++ "\n")) ++
    "error: " ++ fault.flaw.message

end Fault

end NodeDemand.Pattern
