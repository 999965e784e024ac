/-
# Sets of characters in brackets

Between brackets stand characters, ranges, classes and further brackets; double signs combine the
set before them with the set behind them, from left to right.  A closing bracket that stands first
and minus signs that stand first are characters.
-/
import NodeDemand.Pattern.Escape

namespace NodeDemand.Pattern

/-- A set by its name between colons, which may be negated; the cursor stands at its bracket. -/
def takeNamed? (cur : Cursor) : Option (Members × Cursor) := do
  let opened ← cur.take? ['[', ':']
  let (negated, start) :=
    match opened.take? ['^'] with
    | some start => (true, start)
    | none => (false, opened)
  let name := start.rest.takeWhile (· != ':')
  let closed ← (start.take? name).bind (·.take? [':', ']'])
  let set ← namedSets.lookup (String.ofList name)
  return (.named (closed.since cur.place) set negated, closed)

/-- A part of a pattern as a member of a set. -/
def asMember : Node → Except Fault Members
  | .literal c => .ok (.literal c)
  | .shorthand span shorthand negated => .ok (.shorthand span shorthand negated)
  | .property span name => .ok (.property span name)
  | node => refuse .escapeInBrackets node.span

/-- A part of a pattern as an end of a range. -/
def asRangeEnd : Node → Except Fault Literal
  | .literal c => .ok c
  | node => refuse .rangeEnd node.span

/-- Takes a character or an escape. -/
def takeEnd (c : Char) (cur : Cursor) : Taken Node :=
  if c = '\\' then takeEscape cur else .ok (.literal ⟨cur.charSpan c, c, false⟩, cur.next)

/-- Takes a character, a class, or a range, which starts with the character `c`; `unclosed` is the
part that is at fault if the pattern ends. -/
def takeMember (unclosed : Span) (c : Char) (cur : Cursor) : Taken Members :=
  (takeEnd c cur).bind fun (first, behind) =>
    let behind := behind.skip
    match behind.rest with
    | [] => refuse .bracketsUnclosed unclosed
    | sign :: _ =>
      if sign ≠ '-' ∨ behind.peek? = some ']' ∨ behind.peek? = some '-' then
        (asMember first).map (·, behind)
      else
        let cur := behind.advance
        match cur.rest with
        | [] => refuse .bracketsUnclosed unclosed
        | d :: _ =>
          (takeEnd d cur).bind fun (last, behind) =>
            (asRangeEnd first).bind fun low =>
              (asRangeEnd last).bind fun high =>
                let range := Members.range low high
                if low.char ≤ high.char then .ok (range, behind)
                else refuse .rangeOrder range.span

/-- The minus signs at the start of a set, and the cursor behind them. -/
def takeMinuses (cur : Cursor) : List Members × Cursor :=
  match h : cur.rest with
  | '-' :: _ =>
    have _shorter := Cursor.length_advance_lt h
    let (more, behind) := takeMinuses cur.advance
    (.literal ⟨cur.charSpan '-', '-', false⟩ :: more, behind)
  | _ => ([], cur)
termination_by cur.rest.length

/-- The start of a set: whether it is negated, the signs at its start that are characters, and the
place where its members start. -/
structure Opening where
  /-- Whether the set is negated. -/
  negated : Bool
  /-- The place behind the bracket and the sign of negation. -/
  start : Place
  /-- The first members. -/
  first : List Members

/-- Takes the start of a set; the cursor stands at its bracket. -/
def takeOpening (cur : Cursor) : Taken Opening :=
  let whole (behind : Cursor) : Span := behind.since cur.place
  let opened := cur.advance
  let (negated, start) :=
    if opened.rest.head? = some '^' then (true, opened.advance) else (false, opened)
  let (minuses, behind) := takeMinuses start
  match behind.rest, minuses with
  | [], [] => refuse .bracketsUnclosed (whole behind)
  | [], _ :: _ => refuse .bracketsUnclosed cur.here
  | ']' :: _, [] =>
    let closing := Members.literal ⟨behind.charSpan ']', ']', false⟩
    let behind := behind.advance
    if behind.rest.isEmpty then refuse .bracketsUnclosed (whole behind)
    else .ok (⟨negated, start.place, [closing]⟩, behind)
  | _, _ => .ok (⟨negated, start.place, minuses⟩, behind)

/-- The combination that a double sign stands for. -/
def combination? : List Char → Option Combination
  | '&' :: '&' :: _ => some .intersection
  | '-' :: '-' :: _ => some .difference
  | '~' :: '~' :: _ => some .symmetricDifference
  | _ => none

/-- A set that has been read in part: what stands before the last double sign, and the members
behind it. -/
structure HalfSet where
  /-- The set before the last double sign, with that sign. -/
  left : Option (Combination × Members) := none
  /-- Where the members start. -/
  start : Place
  /-- The members. -/
  parts : List Members

namespace HalfSet

/-- The set, if nothing more follows. -/
def done (set : HalfSet) : Members :=
  let right := Members.ofParts set.start set.parts
  match set.left with
  | none => right
  | some (combination, left) => .combined combination left right

/-- The set with a further member. -/
def push (set : HalfSet) (member : Members) : HalfSet :=
  { set with parts := set.parts ++ [member] }

/-- The set with a double sign behind it, and the place behind that. -/
def combine (set : HalfSet) (combination : Combination) (start : Place) : HalfSet :=
  ⟨some (combination, set.done), start, []⟩

end HalfSet

mutual

/-- Takes a set in brackets; the cursor stands at the bracket, and `fuel` bounds the number of
parts. -/
def takeBrackets (fuel : Nat) (cur : Cursor) : Taken Members :=
  match fuel with
  | 0 => refuse .bracketsUnclosed cur.here
  | fuel + 1 =>
    (takeOpening cur).bind fun (opening, behind) =>
      (takeMembers fuel (behind.since cur.place) ⟨none, opening.start, opening.first⟩ behind).map
        fun (members, behind) =>
          (.brackets (behind.since cur.place) opening.negated members, behind)

/-- Takes the rest of a set, whose start is `opening`, up to its closing bracket. -/
def takeMembers (fuel : Nat) (opening : Span) (set : HalfSet) (cur : Cursor) : Taken Members :=
  match fuel with
  | 0 => refuse .bracketsUnclosed opening
  | fuel + 1 =>
    let cur := cur.skip
    match cur.rest with
    | [] => refuse .bracketsUnclosed opening
    | c :: _ =>
      if c = ']' then .ok (set.done, cur.next)
      else if c = '[' then
        match takeNamed? cur with
        | some (member, behind) => takeMembers fuel opening (set.push member) behind
        | none =>
          (takeBrackets fuel cur).bind fun (member, behind) =>
            takeMembers fuel opening (set.push member) behind
      else
        match combination? cur.rest with
        | some combination =>
          let behind := cur.next.next
          takeMembers fuel opening (set.combine combination behind.place) behind
        | none =>
          (takeMember opening c cur).bind fun (member, behind) =>
            takeMembers fuel opening (set.push member) behind

end

end NodeDemand.Pattern
