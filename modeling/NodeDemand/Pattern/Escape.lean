/-
# Escapes and names in a pattern

What may stand behind a backslash: a character, a class of characters, or a condition on a place;
and the names and the flags that stand behind the parenthesis of a group.  Every reader takes a
part from the cursor on and gives the cursor behind it, or the fault that it finds.
-/
import NodeDemand.Pattern.Cursor
import NodeDemand.Pattern.Node
import NodeDemand.Text.Alphanumeric

namespace NodeDemand.Pattern

/-- The result of reading a part of a pattern. -/
abbrev Taken (α : Type) := Except Fault (α × Cursor)

/-- The result that a part has a flaw. -/
def refuse {α : Type} (flaw : Flaw) (span : Span) : Except Fault α := .error ⟨flaw, span⟩

/-! ### Numbers -/

/-- The value of a hexadecimal digit. -/
def hexValue (c : Char) : Nat :=
  if c.isDigit then c.toNat - '0'.toNat else c.toLower.toNat - 'a'.toNat + 10

/-- Whether a character is a hexadecimal digit. -/
def isHexDigit (c : Char) : Bool :=
  c.isDigit || ('a' ≤ c && c ≤ 'f') || ('A' ≤ c && c ≤ 'F')

/-- The character with a number in hexadecimal digits. -/
def hexChar? (digits : List Char) : Option Char :=
  let n := digits.foldl (fun n c => 16 * n + hexValue c) 0
  if n.isValidChar then some (Char.ofNat n) else none

/-- Takes a fixed number of hexadecimal digits behind those that have been read. -/
def takeHexDigits (read : List Char) (cur : Cursor) : Nat → Taken (List Char)
  | 0 => .ok (read, cur)
  | n + 1 =>
    match cur.rest with
    | [] => refuse .escapeUnfinished cur.here
    | c :: _ =>
      if isHexDigit c then takeHexDigits (read ++ [c]) cur.advance n
      else refuse .hexDigit (cur.charSpan c)

/-- The character whose hexadecimal digits stand in a part of the pattern. -/
def hexLiteral (start : Place) (isByte : Bool) (digits : List Char) (span : Span) (cur : Cursor) :
    Taken Node :=
  match hexChar? digits with
  | none => refuse .hexNoCharacter span
  | some char => .ok (.literal ⟨cur.since start, char, isByte⟩, cur)

/-- Takes a character by its number; the cursor stands at the letter behind the backslash, which
says how many digits there are unless they stand in braces. -/
def takeHex (start : Place) (letter : Char) (cur : Cursor) : Taken Node :=
  let cur := cur.advance
  match cur.rest with
  | '{' :: _ =>
    let opening := cur.place
    let first := cur.next.place
    let (digits, behind) := cur.advance.takeWhile isHexDigit
    match behind.rest with
    | [] => refuse .escapeUnfinished (behind.since opening)
    | '}' :: _ =>
      if digits.isEmpty then refuse .hexEmpty (behind.advance.since opening)
      else hexLiteral start false digits (behind.since first) behind.advance
    | c :: _ => refuse .hexDigit (behind.charSpan c)
  | _ =>
    let width := if letter = 'x' then 2 else if letter = 'u' then 4 else 8
    (takeHexDigits [] cur width).bind fun (digits, behind) =>
      hexLiteral start (letter = 'x') digits (behind.since cur.place) behind

/-- The greatest bound of a repetition. -/
def maxBound : Nat := UInt32.size - 1

/-- A decimal number with blanks around it, or its flaw, and the cursor behind it. -/
def takeDecimal (cur : Cursor) : Except Fault Nat × Cursor :=
  let cur := cur.dropWhile Text.isBlank
  let (digits, behind) := cur.takeWhile Char.isDigit
  let span := behind.since cur.place
  let n := Decimal.value digits
  let result :=
    if digits.isEmpty then refuse .countEmpty span
    else if maxBound < n then refuse .numberTooGreat span
    else .ok n
  (result, behind.dropWhile Text.isBlank)

/-! ### Classes and edges -/

/-- Takes a class by a property; the cursor stands at the letter behind the backslash. -/
def takeProperty (start : Place) (cur : Cursor) : Taken Node :=
  let cur := cur.advance
  match cur.rest with
  | [] => refuse .escapeUnfinished cur.here
  | '{' :: _ =>
    let (name, behind) := cur.advance.takeWhile (· != '}')
    match behind.rest with
    | [] => refuse .escapeUnfinished behind.here
    | _ :: _ => .ok (.property (behind.next.since start) name, behind.next)
  | c :: _ =>
    if c = '\\' then refuse .propertyName (cur.charSpan c)
    else .ok (.property (cur.advance.since start) [c], cur.advance)

/-- The edges that have names in braces. -/
def namedEdges : List (String × Anchor) :=
  [("start", .wordStart), ("end", .wordEnd), ("start-half", .wordStartHalf),
    ("end-half", .wordEndHalf)]

/-- Takes the name in braces behind the edge of a word that was read from a place on.  Braces with
anything but a name belong to a repetition of the edge. -/
def takeEdge (start : Place) (cur : Cursor) : Taken Node :=
  let plain : Taken Node := .ok (.anchor (cur.since start) .wordEdge, cur)
  match cur.rest with
  | '{' :: _ =>
    let isNameChar (c : Char) : Bool := c.isAlpha || c == '-'
    let opened := cur.advance
    match opened.rest with
    | [] => refuse .edgeUnfinished (opened.since start)
    | c :: _ =>
      if isNameChar c then
        let (name, behind) := opened.takeWhile isNameChar
        match behind.rest with
        | '}' :: _ =>
          match namedEdges.lookup (String.ofList name) with
          | some anchor => .ok (.anchor (behind.next.since start) anchor, behind.next)
          | none => refuse .edgeUnknown (behind.since opened.place)
        | _ => refuse .edgeUnclosed (behind.since cur.place)
      else plain
  | _ => plain

/-! ### Escapes -/

/-- Whether a character behind a backslash stands for itself: the ASCII characters do, other than
letters, digits and angle brackets. -/
def standsForItself (c : Char) : Bool :=
  decide (c.toNat < 0x80) && !c.isAlphanum && c != '<' && c != '>'

/-- The characters that have a letter behind a backslash. -/
def letteredChars : List (Char × Char) :=
  [('a', '\x07'), ('f', '\x0c'), ('t', '\t'), ('n', '\n'), ('r', '\r'), ('v', '\x0b')]

/-- The conditions on a place that have a letter or sign behind a backslash. -/
def letteredAnchors : List (Char × Anchor) :=
  [('A', .textStart), ('z', .textEnd), ('B', .noWordEdge), ('<', .wordStart), ('>', .wordEnd)]

/-- The classes that have a letter behind a backslash, and whether they are negated. -/
def letteredClasses : List (Char × Shorthand × Bool) :=
  [('d', .digit, false), ('s', .space, false), ('w', .word, false), ('D', .digit, true),
    ('S', .space, true), ('W', .word, true)]

/-- Takes an escape; the cursor stands at the backslash. -/
def takeEscape (cur : Cursor) : Taken Node :=
  let start := cur.place
  let cur := cur.next
  match cur.rest with
  | [] => refuse .escapeUnfinished (cur.since start)
  | c :: _ =>
    let behind := cur.next
    let span := behind.since start
    if c.isDigit then refuse .backreference span
    else if c = 'x' ∨ c = 'u' ∨ c = 'U' then takeHex start c cur
    else if c = 'p' ∨ c = 'P' then takeProperty start cur
    else if c = 'b' then takeEdge start behind
    else if standsForItself c then .ok (.literal ⟨span, c, false⟩, behind)
    else
      match letteredClasses.lookup c, letteredChars.lookup c, letteredAnchors.lookup c with
      | some (shorthand, negated), _, _ => .ok (.shorthand span shorthand negated, behind)
      | _, some char, _ => .ok (.literal ⟨span, char, false⟩, behind)
      | _, _, some anchor => .ok (.anchor span anchor, behind)
      | _, _, _ => refuse .escapeUnknown span

/-! ### Names and flags -/

/-- Whether a character may stand in the name of a group. -/
def isNameChar (first : Bool) (c : Char) : Bool :=
  if first then c == '_' || Text.isLetter c
  else c == '_' || c == '.' || c == '[' || c == ']' || Text.isAlphanumeric c

/-- Takes the characters of a name up to the bracket that closes it. -/
def takeNameChars (first : Bool) (cur : Cursor) : Taken (List Char) :=
  match h : cur.rest with
  | [] => refuse .nameUnfinished cur.here
  | c :: _ =>
    have _shorter := Cursor.length_next_lt h
    if c = '>' then .ok ([], cur)
    else if isNameChar first c then
      (takeNameChars false cur.next).map fun (cs, behind) => (c :: cs, behind)
    else refuse .nameCharacter (cur.charSpan c)
termination_by cur.rest.length

/-- Takes the name of a group with the bracket that closes it, and remembers the name. -/
def takeName (cur : Cursor) : Except Fault Cursor := do
  let (name, behind) ← takeNameChars true cur
  let name := String.ofList name
  let span := behind.since cur.place
  if name.isEmpty then refuse .nameEmpty span
  else
    match behind.names.lookup name with
    | some earlier => refuse (.nameRepeated earlier) span
    | none => .ok { behind.next with names := (name, span) :: behind.names }

/-- The letters of the flags. -/
def flagLetters : List (Char × Flag) :=
  [('i', .ignoreCase), ('m', .multiLine), ('s', .dotAll), ('U', .swapGreed), ('u', .unicode),
    ('R', .crlf), ('x', .spaced)]

/-- A sign among flags: a flag, or the minus sign, which has none. -/
structure FlagSign where
  /-- The flag. -/
  flag : Option Flag
  /-- Where it stands. -/
  span : Span

/-- What the signs among flags set: the flags behind a minus sign are taken back. -/
def settingsOf (value : Bool) : List FlagSign → Settings
  | [] => []
  | sign :: rest =>
    match sign.flag with
    | none => settingsOf false rest
    | some flag => (flag, value) :: settingsOf value rest

/-- The sign that a character among flags is, unless it has been read before. -/
def flagSign (read : List FlagSign) (c : Char) (span : Span) : Except Fault FlagSign :=
  let earlier (flag : Option Flag) : Option Span := (read.find? (·.flag = flag)).map (·.span)
  if c = '-' then
    match earlier none with
    | some span' => refuse (.negationRepeated span') span
    | none => .ok ⟨none, span⟩
  else
    match flagLetters.lookup c with
    | none => refuse .flagUnknown span
    | some flag =>
      match earlier (some flag) with
      | some span' => refuse (.flagRepeated span') span
      | none => .ok ⟨some flag, span⟩

/-- Takes flags up to the sign that ends them. -/
def takeFlags (read : List FlagSign) (cur : Cursor) : Taken Settings :=
  match h : cur.rest with
  | [] => refuse .flagsUnfinished cur.here
  | c :: _ =>
    have _shorter := Cursor.length_next_lt h
    if c = ':' ∨ c = ')' then
      match read.getLast? with
      | some ⟨none, span⟩ => refuse .negationDangling span
      | _ => .ok (settingsOf true read, cur)
    else
      match flagSign read c (cur.charSpan c) with
      | .error fault => .error fault
      | .ok sign => takeFlags (read ++ [sign]) cur.next
termination_by cur.rest.length

end NodeDemand.Pattern
