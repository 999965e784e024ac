/-
# Arithmetic on counts

Counts are unsigned 64-bit numbers.  Sums and products that do not fit stop at the greatest count.
Each operation is described by what it does to natural numbers.
-/

namespace NodeDemand.Count

/-- The greatest count. -/
def greatest : UInt64 := 0xFFFFFFFFFFFFFFFF

/-- The sum of two counts, or the greatest count. -/
def add (a b : UInt64) : UInt64 := if a.toNat + b.toNat < UInt64.size then a + b else greatest

/-- The product of two counts, or the greatest count. -/
def mul (a b : UInt64) : UInt64 := if a.toNat * b.toNat < UInt64.size then a * b else greatest

/-- The quotient of two counts, rounded up. -/
def ceilDiv (a b : UInt64) : UInt64 := if a % b = 0 then a / b else a / b + 1

/-- The greater of two counts. -/
def larger (a b : UInt64) : UInt64 := if a ≤ b then b else a

/-- The sum of a list of counts, or the greatest count. -/
def total (counts : List UInt64) : UInt64 := counts.foldl add 0

@[simp] theorem toNat_greatest : greatest.toNat = UInt64.size - 1 := rfl

theorem toNat_add (a b : UInt64) :
    (add a b).toNat = min (a.toNat + b.toNat) (UInt64.size - 1) := by
  unfold add
  split
  · rename_i h
    rw [UInt64.toNat_add, Nat.mod_eq_of_lt h]
    omega
  · rw [toNat_greatest]
    omega

theorem toNat_mul (a b : UInt64) :
    (mul a b).toNat = min (a.toNat * b.toNat) (UInt64.size - 1) := by
  unfold mul
  split
  · rename_i h
    rw [UInt64.toNat_mul, Nat.mod_eq_of_lt h]
    omega
  · rw [toNat_greatest]
    omega

theorem toNat_larger (a b : UInt64) : (larger a b).toNat = max a.toNat b.toNat := by
  unfold larger
  split <;> rename_i h <;> rw [UInt64.le_iff_toNat_le] at h <;> omega

/-- Rounding up does not leave the counts when the divisor is positive. -/
theorem toNat_ceilDiv {a b : UInt64} (hb : 0 < b.toNat) :
    (ceilDiv a b).toNat = (a.toNat + b.toNat - 1) / b.toNat := by
  have hmod := Nat.mod_add_div a.toNat b.toNat
  have hlt := Nat.mod_lt a.toNat hb
  have ha := a.toNat_lt
  have hcomm := Nat.mul_comm b.toNat (a.toNat / b.toNat)
  unfold ceilDiv
  split
  · rename_i h
    have h0 : a.toNat % b.toNat = 0 := by
      have := congrArg UInt64.toNat h
      simpa using this
    rw [UInt64.toNat_div]
    refine (Nat.div_eq_of_lt_le ?_ ?_).symm
    · omega
    · rw [Nat.add_mul, Nat.one_mul]; omega
  · rename_i h
    have h0 : a.toNat % b.toNat ≠ 0 := by
      intro h0
      exact h (UInt64.toNat_inj.1 (by simpa using h0))
    have hdiv : a.toNat / b.toNat + 1 < 2 ^ 64 := by
      have hle : a.toNat / b.toNat ≤ b.toNat * (a.toNat / b.toNat) := Nat.le_mul_of_pos_left _ hb
      omega
    rw [UInt64.toNat_add, UInt64.toNat_div, show (1 : UInt64).toNat = 1 from rfl,
      Nat.mod_eq_of_lt hdiv]
    refine (Nat.div_eq_of_lt_le ?_ ?_).symm
    · rw [Nat.add_mul, Nat.one_mul]; omega
    · rw [Nat.add_mul, Nat.add_mul, Nat.one_mul]; omega

end NodeDemand.Count
