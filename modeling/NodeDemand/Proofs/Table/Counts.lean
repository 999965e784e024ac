/-
# Counts in cells and in resource lists

Counts are read in two places, from the cells of the job table and from resource lists.  Both
readers take exactly the numerals whose value is a count, with any number of leading zeros, and
neither wraps: a numeral with a greater value is refused however long it is.  They differ in a plus
sign only, which a cell may have before its numeral (`counts_exact`).

What the readers do with a text is proved in `NodeDemand.Proofs.Text.Numeral`; here it is carried
over to the columns that hold counts.
-/
import NodeDemand.Proofs.Result
import NodeDemand.Proofs.Text.Numeral
import NodeDemand.Table.Column
import Mathlib.Algebra.Group.Nat.Defs

namespace NodeDemand

/-- The columns that hold counts, each with the attribute that it sets. -/
def Column.countSetters : List (Column × (UInt64 → Job → Job)) :=
  [(nodes, fun n job => { job with nodes := n }),
    (cpusTotal, fun n job => { job with cpusTotal := n }),
    (tasks, fun n job => { job with tasks := n }),
    (cpusPerTask, fun n job => { job with cpusPerTask := n }),
    (cpusMinPerNode, fun n job => { job with cpusMinPerNode := n })]

/-- The columns that hold counts all read their cells alike. -/
lemma Column.set_of_mem_countSetters {setter : Column × (UInt64 → Job → Job)}
    (h : setter ∈ countSetters) (cell : String) (job : Job) :
    setter.1.set cell job = (readCell cell).map fun n => setter.2 n job := by
  simp only [countSetters, List.mem_cons, List.not_mem_nil, or_false] at h
  rcases h with rfl | rfl | rfl | rfl | rfl <;> rfl

lemma Column.readCell_eq_ok_iff {cell : String} {n : UInt64} :
    readCell cell = .ok n ↔ readCount cell.toList = .ok n ∨
      ∃ rest : String, cell = "+" ++ rest ∧ readCount rest.toList = .ok n := by
  rw [readCell, mapError_eq_ok_iff, countOfField_eq_ok_iff]
  refine or_congr_right ⟨?_, ?_⟩
  · rintro ⟨rest, hcell, hrest⟩
    refine ⟨String.ofList rest, ?_, by rwa [String.toList_ofList]⟩
    rw [← String.toList_inj]
    simp only [hcell, String.toList_append, String.toList_ofList]
    rfl
  · rintro ⟨rest, rfl, hrest⟩
    exact ⟨rest.toList, String.toList_append, hrest⟩

/-- **Counts are read exactly.**  A text is a count exactly if it is a numeral whose value is less
than `2 ^ 64`, and it is read as that value.  A cell of a column that holds counts is accepted in
exactly these cases, with the same value, and also with a plus sign before such a text; it sets the
attribute of its column and nothing else.  So the numeral that is written for a count is read as
that count in both places, and every numeral with a greater value is refused as too large. -/
theorem counts_exact :
    (∀ (v : String) (n : UInt64), readCount v.toList = .ok n ↔
      Decimal.IsNumeral v.toList ∧ Decimal.value v.toList = n.toNat) ∧
    (∀ v : String, (∃ n, readCount v.toList = .ok n) ↔
      Decimal.IsNumeral v.toList ∧ Decimal.value v.toList ≤ 2 ^ 64 - 1) ∧
    (∀ setter ∈ Column.countSetters, ∀ (v : String) (job after : Job),
      setter.1.set v job = .ok after ↔ ∃ n, (readCount v.toList = .ok n ∨
        ∃ w : String, v = "+" ++ w ∧ readCount w.toList = .ok n) ∧ after = setter.2 n job) ∧
    (∀ n : UInt64, readCount (Decimal.text n.toNat).toList = .ok n ∧
      ∀ setter ∈ Column.countSetters, ∀ job : Job,
        setter.1.set (Decimal.text n.toNat) job = .ok (setter.2 n job)) ∧
    (∀ v : String, Decimal.IsNumeral v.toList → 2 ^ 64 ≤ Decimal.value v.toList →
      readCount v.toList = .error (.tooLarge v.toList) ∧
      ∀ setter ∈ Column.countSetters, ∀ job : Job,
        setter.1.set v job = .error (.count .tooLarge)) := by
  have htext : ∀ n : UInt64, readCount (Decimal.text n.toNat).toList = .ok n := by
    intro n
    rw [Decimal.text, String.toList_ofList, readCount_write]
  refine ⟨fun v n => readCount_eq_ok_iff, ?_, ?_, ?_, ?_⟩
  · intro v
    simp only [readCount_eq_ok_iff, exists_and_left]
    refine and_congr_right fun _ => ⟨?_, fun hle => ?_⟩
    · rintro ⟨n, hvalue⟩
      have hlt := n.toNat_lt
      omega
    · have hlt : Decimal.value v.toList < UInt64.size := Nat.lt_of_le_pred (by decide) hle
      exact ⟨UInt64.ofNat (Decimal.value v.toList), (UInt64.toNat_ofNat_of_lt' hlt).symm⟩
  · intro setter hsetter v job after
    rw [Column.set_of_mem_countSetters hsetter, map_eq_ok_iff]
    exact exists_congr fun n => and_congr Column.readCell_eq_ok_iff eq_comm
  · intro n
    refine ⟨htext n, fun setter hsetter job => ?_⟩
    rw [Column.set_of_mem_countSetters hsetter, Column.readCell_eq_ok_iff.2 (Or.inl (htext n))]
    rfl
  · intro v hnumeral hle
    refine ⟨readCount_of_size_le hnumeral hle, fun setter hsetter job => ?_⟩
    rw [Column.set_of_mem_countSetters hsetter, Column.readCell,
      Decimal.countOfField_of_size_le hnumeral hle]
    rfl

/-- A numeral with a leading zero and a value that is five modulo `2 ^ 64` is refused. -/
theorem counts_exact_wrapping :
    Decimal.IsNumeral "018446744073709551621".toList ∧
    2 ^ 64 ≤ Decimal.value "018446744073709551621".toList ∧
    readCount "018446744073709551621".toList = .error (.tooLarge "018446744073709551621".toList) ∧
    Column.tasks.set "018446744073709551621" { id := "7" } = .error (.count .tooLarge) := by
  have hnumeral : Decimal.IsNumeral "018446744073709551621".toList :=
    ⟨by decide, List.all_eq_true.1 (by decide)⟩
  have hvalue : 2 ^ 64 ≤ Decimal.value "018446744073709551621".toList := by decide
  obtain ⟨hcount, hcell⟩ := counts_exact.2.2.2.2 _ hnumeral hvalue
  exact ⟨hnumeral, hvalue, hcount,
    hcell (.tasks, fun n job => { job with tasks := n }) (by simp [Column.countSetters]) _⟩

end NodeDemand
