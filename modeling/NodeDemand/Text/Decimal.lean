/-
# Decimal numerals and counts

A count is an unsigned 64-bit number.  Two readers turn numerals into counts: a resource list
holds a plain run of ASCII digits (`count?`), a cell of the job table may also carry a plus sign
(`countOfField`).  Both refuse a numeral whose value does not fit, and neither wraps.

`write` gives the decimal numeral of a number, and `value_write` says that it reads back.
-/

namespace NodeDemand.Decimal

/-- The number that an ASCII digit stands for. -/
def digitValue (c : Char) : Nat := c.toNat - '0'.toNat

/-- The ASCII digit of a number below ten. -/
def digit (n : Nat) : Char := Char.ofNat ('0'.toNat + n)

/-- The value of a run of digits that follows digits of value `n`. -/
def valueFrom (n : Nat) (ds : List Char) : Nat := ds.foldl (fun n d => 10 * n + digitValue d) n

/-- The value of a run of digits. -/
def value (ds : List Char) : Nat := valueFrom 0 ds

/-- The decimal numeral of a number, without leading zeros. -/
def write (n : Nat) : List Char :=
  if n < 10 then [digit n] else write (n / 10) ++ [digit (n % 10)]

/-- The decimal numeral of a number as a string. -/
def text (n : Nat) : String := String.ofList (write n)

/-- The count of a run of digits, if it fits into 64 bits. -/
def count? (ds : List Char) : Option UInt64 :=
  if value ds < UInt64.size then some (UInt64.ofNat (value ds)) else none

/-- Why a cell is not a count. -/
inductive CountError where
  /-- The cell is empty. -/
  | empty
  /-- The cell holds a character that is not a digit. -/
  | invalidDigit
  /-- The digits have a value of more than 64 bits. -/
  | tooLarge
deriving DecidableEq, Repr

/-- The wording of a count error. -/
def CountError.message : CountError → String
  | empty => "cannot parse integer from empty string"
  | invalidDigit => "invalid digit found in string"
  | tooLarge => "number too large to fit in target type"

/-- Reads the rest of a numeral whose digits so far have the value `n`.  The first thing wrong
decides: a character that is no digit, or a value that no longer fits. -/
def scan (n : Nat) : List Char → Except CountError UInt64
  | [] => .ok (UInt64.ofNat n)
  | c :: rest =>
    if !c.isDigit then .error .invalidDigit
    else if 10 * n + digitValue c < UInt64.size then scan (10 * n + digitValue c) rest
    else .error .tooLarge

/-- The count in a cell: digits, which a single plus sign may precede. -/
def countOfField : List Char → Except CountError UInt64
  | [] => .error .empty
  | ['+'] => .error .invalidDigit
  | '+' :: rest => scan 0 rest
  | cs => scan 0 cs

/-! ### Numerals read back -/

theorem digit_eq {n : Nat} (h : n < 10) : (digit n).isDigit = true ∧ digitValue (digit n) = n := by
  have : n = 0 ∨ n = 1 ∨ n = 2 ∨ n = 3 ∨ n = 4 ∨ n = 5 ∨ n = 6 ∨ n = 7 ∨ n = 8 ∨ n = 9 := by omega
  rcases this with rfl | rfl | rfl | rfl | rfl | rfl | rfl | rfl | rfl | rfl <;> decide

theorem value_append_digit (ds : List Char) (d : Char) :
    value (ds ++ [d]) = 10 * value ds + digitValue d := by
  simp [value, valueFrom, List.foldl_append]

/-- The numeral of a number has its value. -/
theorem value_write (n : Nat) : value (write n) = n := by
  induction n using write.induct with
  | case1 n h => rw [write]; simp [h, value, valueFrom, (digit_eq h).2]
  | case2 n h ih =>
    rw [write, if_neg h, value_append_digit, ih, (digit_eq (Nat.mod_lt n (by omega))).2]
    omega

/-- A numeral consists of digits. -/
theorem isDigit_of_mem_write {n : Nat} {c : Char} (h : c ∈ write n) : c.isDigit = true := by
  induction n using write.induct with
  | case1 n hn =>
    rw [write, if_pos hn] at h
    simpa [List.mem_singleton.1 h] using (digit_eq hn).1
  | case2 n hn ih =>
    rw [write, if_neg hn, List.mem_append, List.mem_singleton] at h
    rcases h with h | rfl
    · exact ih h
    · exact (digit_eq (Nat.mod_lt n (by omega))).1

theorem write_ne_nil (n : Nat) : write n ≠ [] := by
  rw [write]; split <;> simp

end NodeDemand.Decimal
