/-
# Sets of characters in a pattern

The sets that a pattern names are finite unions of ranges, and every operation on sets comes from
two: the union, and the complement within all characters.
-/
import NodeDemand.Text.Ranges

namespace NodeDemand.Pattern

/-- A set of characters, as the list of its ranges. -/
abbrev CharSet := Text.Ranges

namespace CharSet

/-- The set of one character. -/
def single (c : Char) : CharSet := [(c.toNat, c.toNat)]

/-- The set of the characters from one to another. -/
def between (low high : Char) : CharSet := [(low.toNat, high.toNat)]

/-- The greatest code point. -/
def greatest : Nat := 0x10FFFF

/-- The code points that are no characters. -/
def surrogates : Text.Ranges := [(0xD800, 0xDFFF)]

/-- Ranges with one added, in the order of their starts. -/
def insertRange (r : Nat × Nat) : Text.Ranges → Text.Ranges
  | [] => [r]
  | q :: rest => if r.1 ≤ q.1 then r :: q :: rest else q :: insertRange r rest

/-- Ranges in the order of their starts. -/
def sorted (rs : Text.Ranges) : Text.Ranges := rs.foldr insertRange []

/-- What sorted ranges leave out from a code point on. -/
def gapsFrom (low : Nat) : Text.Ranges → Text.Ranges
  | [] => if low ≤ greatest then [(low, greatest)] else []
  | r :: rest =>
    if low < r.1 then (low, r.1 - 1) :: gapsFrom (max low (r.2 + 1)) rest
    else gapsFrom (max low (r.2 + 1)) rest

/-- The characters out of a set. -/
def complement (s : CharSet) : CharSet := gapsFrom 0 (sorted (s ++ surrogates))

/-- The characters of either set. -/
def union (s t : CharSet) : CharSet := s ++ t

/-- The characters of the first set that are not in the second. -/
def difference (s t : CharSet) : CharSet := complement (complement s ++ t)

/-- The characters of both sets. -/
def intersection (s t : CharSet) : CharSet := difference s (complement t)

/-- The characters of exactly one of the sets. -/
def symmetricDifference (s t : CharSet) : CharSet := difference (s ++ t) (intersection s t)

/-- Whether all characters of a set are ASCII. -/
def isAscii (s : CharSet) : Bool := s.all fun r => decide (r.2 < 0x80)

/-- The part of a range between two code points, moved to another start. -/
def moved (low high start : Nat) (r : Nat × Nat) : Text.Ranges :=
  if max low r.1 ≤ min high r.2 then
    [(max low r.1 - low + start, min high r.2 - low + start)]
  else []

/-- The characters of a set, with the ASCII letters among them in both cases. -/
def foldAscii (s : CharSet) : CharSet :=
  s ++ s.flatMap fun r => moved 0x41 0x5A 0x61 r ++ moved 0x61 0x7A 0x41 r

end CharSet

/-- The sets that have names between colons in brackets. -/
def namedSets : List (String × CharSet) :=
  [("alnum", [(0x30, 0x39), (0x41, 0x5A), (0x61, 0x7A)]),
    ("alpha", [(0x41, 0x5A), (0x61, 0x7A)]),
    ("ascii", [(0x00, 0x7F)]),
    ("blank", [(0x09, 0x09), (0x20, 0x20)]),
    ("cntrl", [(0x00, 0x1F), (0x7F, 0x7F)]),
    ("digit", [(0x30, 0x39)]),
    ("graph", [(0x21, 0x7E)]),
    ("lower", [(0x61, 0x7A)]),
    ("print", [(0x20, 0x7E)]),
    ("punct", [(0x21, 0x2F), (0x3A, 0x40), (0x5B, 0x60), (0x7B, 0x7E)]),
    ("space", [(0x09, 0x0D), (0x20, 0x20)]),
    ("upper", [(0x41, 0x5A)]),
    ("word", [(0x30, 0x39), (0x41, 0x5A), (0x5F, 0x5F), (0x61, 0x7A)]),
    ("xdigit", [(0x30, 0x39), (0x41, 0x46), (0x61, 0x66)])]

end NodeDemand.Pattern
