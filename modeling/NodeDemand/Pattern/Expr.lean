/-
# What a pattern says

A pattern leads from places in a text to places further on: a set of characters leads over one of
its characters, and a condition leads from a place to itself.  A text agrees with a pattern if the
pattern leads from some place to some place.
-/
import NodeDemand.Pattern.CharSet
import NodeDemand.Text.Alphanumeric

namespace NodeDemand.Pattern

/-- A place in a text, as one sees it from there. -/
structure Spot where
  /-- The character before it. -/
  before : Option Char
  /-- The character behind it. -/
  behind : Option Char
deriving DecidableEq, Repr

/-- The places of a text from behind a character on. -/
def spotsFrom (before : Option Char) : List Char → List Spot
  | [] => [⟨before, none⟩]
  | c :: rest => ⟨before, some c⟩ :: spotsFrom (some c) rest

/-- The places of a text, of which there is one more than there are characters. -/
def spots (s : List Char) : List Spot := spotsFrom none s

/-- How a place stands to the words around it. -/
inductive Edge where
  /-- A word starts or ends there. -/
  | any
  /-- No word starts or ends there. -/
  | none
  | start
  | stop
  /-- There is no word before it. -/
  | startHalf
  /-- There is no word behind it. -/
  | stopHalf
deriving DecidableEq, Repr

/-- Whether a place stands so between characters of words. -/
def Edge.holds (before behind : Bool) : Edge → Bool
  | any => before != behind
  | none => before == behind
  | start => !before && behind
  | stop => before && !behind
  | startHalf => !before
  | stopHalf => !behind

/-- A condition on a place. -/
inductive Look where
  | textStart
  | textEnd
  /-- The start of a line; a carriage return may belong to line ends. -/
  | lineStart (crlf : Bool)
  /-- The end of a line; a carriage return may belong to line ends. -/
  | lineEnd (crlf : Bool)
  /-- An edge of a word, whose letters and digits may be those of all scripts. -/
  | edge (allScripts : Bool) (edge : Edge)
deriving DecidableEq, Repr

/-- Whether a character belongs to words. -/
def isWordChar (allScripts : Bool) (c : Char) : Bool :=
  c == '_' || if allScripts then Text.isAlphanumeric c else c.isAlphanum

/-- Whether a place meets a condition. -/
def Look.holds (spot : Spot) : Look → Bool
  | textStart => spot.before.isNone
  | textEnd => spot.behind.isNone
  | lineStart false => spot.before.all (· == '\n')
  | lineEnd false => spot.behind.all (· == '\n')
  | lineStart true =>
    spot.before.all (· == '\n') || (spot.before == some '\r' && spot.behind != some '\n')
  | lineEnd true =>
    spot.behind.all (· == '\r') || (spot.behind == some '\n' && spot.before != some '\r')
  | .edge allScripts e =>
    e.holds (spot.before.any (isWordChar allScripts)) (spot.behind.any (isWordChar allScripts))

/-- A pattern. -/
inductive Expr where
  | empty
  | set (set : CharSet)
  | look (look : Look)
  | seq (first second : Expr)
  | alt (left right : Expr)
  /-- A group whose match is remembered. -/
  | group (content : Expr)
  | repeated (least : Nat) (most : Option Nat) (body : Expr)
deriving DecidableEq, Repr

namespace Expr

/-- Patterns one behind the other. -/
def ofParts : List Expr → Expr
  | [] => empty
  | [single] => single
  | first :: rest => seq first (ofParts rest)

/-- A choice between patterns. -/
def ofBranches : List Expr → Expr
  | [] => empty
  | [single] => single
  | first :: rest => alt first (ofBranches rest)

/-- A pattern repeated; without repetitions nothing is left of it. -/
def repeat? (least : Nat) (most : Option Nat) (body : Expr) : Expr :=
  if most = some 0 then empty else repeated least most body

/-! ### Agreement -/

/-- Some places of a text: for each of its places, whether it is among them. -/
abbrev Marked := List Bool

/-- The places of both. -/
def both (a b : Marked) : Marked := List.zipWith (· || ·) a b

/-- A step taken a number of times, or fewer if nothing changes any more. -/
def stepTimes (step : Marked → Marked) : Nat → Marked → Marked
  | 0, here => here
  | n + 1, here =>
    let there := step here
    if there = here then here else stepTimes step n there

/-- The places that are reached by a step taken up to a number of times. -/
def spread (step : Marked → Marked) (n : Nat) (here : Marked) : Marked :=
  stepTimes (fun marked => both marked (step marked)) n here

/-- The places that a pattern leads to from given ones.  No repetition has to be followed more
often than there are places, because a longer path stays at some place. -/
def reach (spots : List Spot) : Expr → Marked → Marked
  | empty, here => here
  | .set cs, here =>
    false ::
      (List.zipWith (fun marked spot => marked && spot.behind.any cs.contains) here spots).dropLast
  | .look condition, here =>
    List.zipWith (fun marked spot => marked && condition.holds spot) here spots
  | seq first second, here => second.reach spots (first.reach spots here)
  | alt left right, here => both (left.reach spots here) (right.reach spots here)
  | group content, here => content.reach spots here
  | repeated least most body, here =>
    let more := most.elim spots.length (· - least)
    spread (body.reach spots) (min more spots.length)
      (stepTimes (body.reach spots) (min least spots.length) here)

/-- Whether a text agrees with a pattern somewhere. -/
def agrees (e : Expr) (s : List Char) : Bool :=
  (e.reach (spots s) (List.replicate (s.length + 1) true)).any id

/-! ### Limits -/

/-- Whether a pattern has a condition on the words of all scripts. -/
def usesAllScripts : Expr → Bool
  | look (.edge allScripts _) => allScripts
  | empty | set _ | look _ => false
  | seq a b | alt a b => a.usesAllScripts || b.usesAllScripts
  | group content => content.usesAllScripts
  | repeated _ _ body => body.usesAllScripts

/-- The room for one state of a machine that follows a pattern. -/
def stateRoom : Nat := 32

/-- The room for a choice between two states. -/
def forkRoom : Nat := stateRoom + 8

/-- The room for a set: one state if it is a single range of ASCII, otherwise states for the bytes
of its characters. -/
def setRoom : CharSet → Nat
  | [(_, high)] => if high < 0x80 then stateRoom else 4 * stateRoom + 16
  | cs =>
    if cs.isAscii then stateRoom + 8 * cs.length
    else 12 * stateRoom + 24 + 8 * (cs.filter (·.2 < 0x80)).length

/-- The room that a machine takes which follows a pattern. -/
def room : Expr → Nat
  | empty => stateRoom
  | .set cs => setRoom cs
  | look _ => stateRoom
  | seq first second => first.room + second.room
  | alt left right => left.room + right.room + forkRoom + stateRoom
  | group content => content.room + 2 * stateRoom
  | repeated least none body => max 1 least * body.room + forkRoom
  | repeated least (some most) body =>
    least * body.room + (most - least) * (body.room + forkRoom) + stateRoom

end Expr

end NodeDemand.Pattern
