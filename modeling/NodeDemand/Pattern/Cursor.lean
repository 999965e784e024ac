/-
# Reading a pattern from its start

A cursor stands at a place in a pattern.  It steps over one character at a time, and in the spaced
mode it can pass over layout as well: blanks, and comments from a number sign to the line end.
-/
import NodeDemand.Pattern.Fault
import NodeDemand.Text.Blank

namespace NodeDemand.Pattern

/-- The text behind layout, with its place; `comment` says whether a comment is under way. -/
def skipLayout (comment : Bool) : List Char → Place → List Char × Place
  | [], place => ([], place)
  | c :: rest, place =>
    if comment then skipLayout (c != '\n') rest (place.past c)
    else if Text.isBlank c then skipLayout false rest (place.past c)
    else if c = '#' then skipLayout true rest (place.past c)
    else (c :: rest, place)

theorem length_skipLayout_le (comment : Bool) (s : List Char) (place : Place) :
    (skipLayout comment s place).1.length ≤ s.length := by
  induction s generalizing comment place with
  | nil => simp [skipLayout]
  | cons c rest ih =>
    simp only [skipLayout]
    split
    · exact Nat.le_succ_of_le (ih _ _)
    · split
      · exact Nat.le_succ_of_le (ih _ _)
      · split
        · exact Nat.le_succ_of_le (ih _ _)
        · simp

/-- A place in a pattern that is being read. -/
structure Cursor where
  /-- The text behind the place. -/
  rest : List Char
  /-- The place. -/
  place : Place := {}
  /-- Whether layout is passed over. -/
  spaced : Bool := false
  /-- The names of groups that have been read, with their places. -/
  names : List (String × Span) := []

namespace Cursor

/-- The empty part at the place. -/
def here (cur : Cursor) : Span := ⟨cur.place, cur.place⟩

/-- The part from a place on to the cursor. -/
def since (cur : Cursor) (start : Place) : Span := ⟨start, cur.place⟩

/-- The part that holds the next character. -/
def charSpan (cur : Cursor) (c : Char) : Span := ⟨cur.place, cur.place.past c⟩

/-- The cursor behind the next character. -/
def next (cur : Cursor) : Cursor :=
  match cur.rest with
  | [] => cur
  | c :: rest => { cur with rest, place := cur.place.past c }

/-- The cursor behind layout, if layout is passed over. -/
def skip (cur : Cursor) : Cursor :=
  if cur.spaced then
    let (rest, place) := skipLayout false cur.rest cur.place
    { cur with rest, place }
  else cur

/-- The cursor behind the next character and the layout that follows it. -/
def advance (cur : Cursor) : Cursor := cur.next.skip

/-- The cursor behind a text, if that stands next. -/
def take? (text : List Char) (cur : Cursor) : Option Cursor :=
  match text with
  | [] => some cur
  | c :: text => if cur.rest.head? = some c then take? text cur.next else none

theorem rest_next {cur : Cursor} {c : Char} {rest : List Char} (h : cur.rest = c :: rest) :
    cur.next.rest = rest := by
  simp [next, h]

theorem length_next_lt {cur : Cursor} {c : Char} {rest : List Char} (h : cur.rest = c :: rest) :
    cur.next.rest.length < cur.rest.length := by
  simp [rest_next h, h]

theorem length_skip_le (cur : Cursor) : cur.skip.rest.length ≤ cur.rest.length := by
  unfold skip
  split
  · exact length_skipLayout_le _ _ _
  · exact Nat.le_refl _

theorem length_advance_lt {cur : Cursor} {c : Char} {rest : List Char}
    (h : cur.rest = c :: rest) : cur.advance.rest.length < cur.rest.length := by
  have := length_skip_le cur.next
  rw [rest_next h] at this
  simp only [advance, h, List.length_cons]
  omega

/-- The characters from the cursor on that have a property, and the cursor behind them; layout
after each of them is passed over. -/
def takeWhile (p : Char → Bool) (cur : Cursor) : List Char × Cursor :=
  match h : cur.rest with
  | [] => ([], cur)
  | c :: _ =>
    have _shorter := length_advance_lt h
    if p c then
      let (cs, behind) := cur.advance.takeWhile p
      (c :: cs, behind)
    else ([], cur)
termination_by cur.rest.length

/-- The cursor behind the characters that have a property. -/
def dropWhile (p : Char → Bool) (cur : Cursor) : Cursor :=
  match h : cur.rest with
  | [] => cur
  | c :: _ =>
    have _shorter := length_next_lt h
    if p c then cur.next.dropWhile p else cur
termination_by cur.rest.length

/-- The character behind the next one.  If layout is passed over, this is the first character
behind blanks, or behind one number sign and blanks on its two sides; if there is none, it is the
character directly behind the next one. -/
def peek? (cur : Cursor) : Option Char :=
  let behind := cur.rest.drop 1
  if cur.spaced then
    let found :=
      match behind.dropWhile Text.isBlank with
      | '#' :: comment => comment.dropWhile Text.isBlank
      | other => other
    (found.head?).or behind.head?
  else behind.head?

end Cursor

end NodeDemand.Pattern
