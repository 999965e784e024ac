/-
# JSON values

A JSON value as the program writes and reads it.  The members of an object keep their order, and
reading looks them up by name.  Numbers that are no integers are all alike here, because nothing
that the program reads is one.
-/

namespace NodeDemand

/-- A JSON value. -/
inductive Json where
  | null
  | boolean (b : Bool)
  | integer (n : Int)
  /-- A number that is no integer. -/
  | fractional
  | text (s : String)
  | array (elements : List Json)
  | object (members : List (String × Json))
deriving Repr, Inhabited

namespace Json

/-- A count as a value. -/
def ofCount (n : UInt64) : Json := .integer n.toNat

/-- The count that a value is. -/
def count? : Json → Option UInt64
  | .integer n =>
    if 0 ≤ n ∧ n < (UInt64.size : Int) then some (UInt64.ofNat n.toNat) else none
  | _ => none

/-- The string that a value is. -/
def text? : Json → Option String
  | .text s => some s
  | _ => none

/-- A count reads back. -/
@[simp] theorem count?_ofCount (n : UInt64) : (ofCount n).count? = some n := by
  have h := UInt64.toNat_lt_size n
  rw [ofCount, count?, if_pos ⟨by omega, by omega⟩, Int.toNat_natCast, UInt64.ofNat_toNat]

@[simp] theorem text?_text (s : String) : (Json.text s).text? = some s := rfl

end Json

end NodeDemand
