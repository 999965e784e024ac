/-
# Reading a pattern

A pattern is read from left to right.  A sequence ends at a bar, at a closing parenthesis, or at
the end of the pattern; a repetition concerns the part before it.  The spaced mode that a group
sets ends with the group.
-/
import NodeDemand.Pattern.Brackets

namespace NodeDemand.Pattern

/-! ### Repetitions -/

/-- Takes the question mark behind a repetition, if there is one. -/
def takeLazy (cur : Cursor) : Cursor :=
  if cur.rest.head? = some '?' then cur.next else cur

/-- A part of a pattern, repeated; `behind` stands behind the sign of repetition. -/
def repeated (node : Node) (least : Nat) (most : Option Nat) (behind : Cursor) : Node × Cursor :=
  (.repeated ⟨node.span.start, behind.place⟩ least most node, behind)

/-- The bounds of a repetition in braces, and the cursor at the closing brace. -/
def takeBounds (opening : Place) (cur : Cursor) : Taken (Nat × Option Nat) :=
  let unclosed {α : Type} (behind : Cursor) : Except Fault α :=
    refuse .countUnclosed (behind.since opening)
  let (least, behind) := takeDecimal cur
  match behind.rest with
  | [] => unclosed behind
  | ',' :: _ =>
    let cur := behind.advance
    match cur.rest with
    | [] => unclosed cur
    | '}' :: _ => least.map fun least => ((least, none), cur)
    | _ =>
      least.bind fun least =>
        let (most, behind) := takeDecimal cur
        most.map fun most => ((least, some most), behind)
  | _ => least.map fun least => ((least, some least), behind)

/-- Takes a repetition in braces of a part; the cursor stands at the opening brace. -/
def takeCounted (node : Node) (cur : Cursor) : Taken Node :=
  let opened := cur.advance
  if opened.rest.isEmpty then refuse .countUnclosed (opened.since cur.place)
  else
    (takeBounds cur.place opened).bind fun ((least, most), behind) =>
      match behind.rest with
      | '}' :: _ =>
        let behind := takeLazy behind.advance
        if most.all (least ≤ ·) then .ok (repeated node least most behind)
        else refuse .countOrder (behind.since cur.place)
      | _ => refuse .countUnclosed (behind.since cur.place)

/-- Takes a repetition of a part; the cursor stands at its sign. -/
def takeRepetition (sign : Char) (node : Node) (cur : Cursor) : Taken Node :=
  match sign with
  | '?' => .ok (repeated node 0 (some 1) (takeLazy cur.next))
  | '*' => .ok (repeated node 0 none (takeLazy cur.next))
  | '+' => .ok (repeated node 1 none (takeLazy cur.next))
  | _ => takeCounted node cur

/-! ### Groups -/

/-- The start of a group. -/
inductive GroupStart where
  /-- Flags for the rest of the group around, which are no group themselves. -/
  | settings (settings : Settings)
  /-- A group whose match is remembered. -/
  | capture
  /-- A group with flags of its own. -/
  | scope (settings : Settings)

/-- Whether a text starts with the sign of a condition on the text before or behind it. -/
def takeLookAround? (cur : Cursor) : Option Cursor :=
  [['?', '='], ['?', '!'], ['?', '<', '='], ['?', '<', '!']].findSome? (cur.take? ·)

/-- Takes the start of a group; the cursor stands at its parenthesis. -/
def takeGroupStart (cur : Cursor) : Taken GroupStart :=
  let inner := cur.advance
  match takeLookAround? inner with
  | some behind => refuse .lookAround (behind.since cur.place)
  | none =>
    match (inner.take? ['?', 'P', '<']).or (inner.take? ['?', '<']) with
    | some named => (takeName named).map (.capture, ·)
    | none =>
      match inner.take? ['?'] with
      | none => .ok (.capture, inner)
      | some flags =>
        if flags.rest.isEmpty then refuse .groupUnclosed (cur.charSpan '(')
        else
          (takeFlags [] flags).bind fun (settings, behind) =>
            if behind.rest.head? = some ')' then
              if settings.isEmpty then refuse .nothingToRepeat inner.here
              else .ok (.settings settings, behind.next)
            else .ok (.scope settings, behind.next)

/-- The cursor with the spaced mode that flags set. -/
def Cursor.withSettings (cur : Cursor) (settings : Settings) : Cursor :=
  { cur with spaced := (settings.lookup .spaced).getD cur.spaced }

/-! ### The whole -/

/-- Takes a part that is neither a group, nor in brackets, nor a repetition. -/
def takeSimple (c : Char) (cur : Cursor) : Taken Node :=
  let span := cur.charSpan c
  match c with
  | '\\' => takeEscape cur
  | '.' => .ok (.dot span, cur.next)
  | '^' => .ok (.anchor span .lineStart, cur.next)
  | '$' => .ok (.anchor span .lineEnd, cur.next)
  | c => .ok (.literal ⟨span, c, false⟩, cur.next)

mutual

/-- Takes branches up to the end of their group; `start` is where the first of them starts, `read`
holds those that have been read, and `fuel` bounds the number of parts. -/
def takeBranches (fuel : Nat) (start : Place) (read : List Node) (cur : Cursor) : Taken Node :=
  match fuel with
  | 0 => refuse .groupUnclosed cur.here
  | fuel + 1 =>
    (takeParts fuel [] cur).bind fun (parts, behind) =>
      let branches := read ++ [Node.ofParts (behind.since cur.place) parts]
      match behind.rest with
      | '|' :: _ => takeBranches fuel start branches behind.next
      | _ => .ok (.ofBranches (behind.since start) branches, behind)

/-- Takes the parts of a sequence behind those that have been read. -/
def takeParts (fuel : Nat) (read : List Node) (cur : Cursor) : Taken (List Node) :=
  match fuel with
  | 0 => refuse .groupUnclosed cur.here
  | fuel + 1 =>
    let cur := cur.skip
    match cur.rest with
    | [] => .ok (read, cur)
    | c :: _ =>
      if c = '|' ∨ c = ')' then .ok (read, cur)
      else if c = '?' ∨ c = '*' ∨ c = '+' ∨ c = '{' then
        match read.getLast? with
        | some last =>
          if last.isRepeatable then
            (takeRepetition c last cur).bind fun (node, behind) =>
              takeParts fuel (read.dropLast ++ [node]) behind
          else refuse .nothingToRepeat cur.here
        | none => refuse .nothingToRepeat cur.here
      else if c = '(' then
        (takeGroup fuel cur).bind fun (node, behind) => takeParts fuel (read ++ [node]) behind
      else if c = '[' then
        (takeBrackets fuel cur).bind fun (members, behind) =>
          takeParts fuel (read ++ [.brackets members]) behind
      else
        (takeSimple c cur).bind fun (node, behind) => takeParts fuel (read ++ [node]) behind

/-- Takes a group, or flags for the rest of the group around. -/
def takeGroup (fuel : Nat) (cur : Cursor) : Taken Node :=
  match fuel with
  | 0 => refuse .groupUnclosed cur.here
  | fuel + 1 =>
    (takeGroupStart cur).bind fun (start, opened) =>
      let inside (settings : Settings) (wrap : Span → Node → Node) : Taken Node :=
        (takeBranches fuel opened.place [] (opened.withSettings settings)).bind
          fun (node, behind) =>
            match behind.rest with
            | ')' :: _ =>
              let behind := { behind.next with spaced := cur.spaced }
              .ok (wrap (behind.since cur.place) node, behind)
            | _ => refuse .groupUnclosed (cur.charSpan '(')
      match start with
      | .settings settings =>
        .ok (.settings (opened.since cur.place) settings, opened.withSettings settings)
      | .capture => inside [] .capture
      | .scope settings => inside settings (.scope · settings)

end

/-- How deeply a pattern may be nested. -/
def depthLimit : Nat := 250

/-- The pattern that a text writes. -/
def Node.ofText (text : List Char) : Except Fault Node :=
  let start : Cursor := { rest := text }
  (takeBranches (3 * text.length + 3) start.place [] start).bind fun (node, behind) =>
    match behind.rest with
    | c :: _ => refuse .groupUnopened (behind.charSpan c)
    | [] =>
      match node.tooDeep? depthLimit with
      | some span => refuse (.nesting depthLimit) span
      | none => .ok node

end NodeDemand.Pattern
