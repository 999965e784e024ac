/-
# The total of the node counts

The total stops at the greatest count at every step.  That is the same as stopping once, at the end
of the sum in natural numbers (`toNat_totalNodes`), so the total of a part of a list is no greater
than the total of the list (`totalNodes_le_of_sublist`), and a list in which every job needs as many
nodes as in another one has no smaller total (`totalNodes_le_of_forall₂`).  `totalNodes_clamped`
puts together what follows for the order of a list, for lists in parts and for what the passes and
the criteria make of a list.
-/
import NodeDemand.Proofs.Candidates
import Mathlib.Algebra.Order.BigOperators.Group.List
import Mathlib.Algebra.Order.Ring.Nat

namespace NodeDemand

namespace Count

lemma toNat_foldl_add (counts : List UInt64) (n : UInt64) :
    (counts.foldl add n).toNat =
      min (n.toNat + (counts.map UInt64.toNat).sum) (UInt64.size - 1) := by
  -- once a sum has stopped at the greatest count, it stays there
  induction counts generalizing n with
  | nil =>
    have hlt := n.toNat_lt_size
    simp only [List.foldl_nil, List.map_nil, List.sum_nil]
    omega
  | cons count counts ih =>
    rw [List.foldl_cons, ih, toNat_add, List.map_cons, List.sum_cons]
    omega

/-- Stopping at the greatest count at every step is stopping there once, at the end. -/
lemma toNat_total (counts : List UInt64) :
    (total counts).toNat = min (counts.map UInt64.toNat).sum (UInt64.size - 1) := by
  rw [total, toNat_foldl_add, show (0 : UInt64).toNat = 0 from rfl, Nat.zero_add]

end Count

namespace Requirement

lemma toNat_totalNodes (jobs : List Job) :
    (totalNodes jobs).toNat =
      min (jobs.map fun job => job.nodes.toNat).sum (UInt64.size - 1) := by
  rw [totalNodes, Count.toNat_total, List.map_map]
  rfl

/-- A part of a list needs no more nodes than the list. -/
lemma totalNodes_le_of_sublist {few many : List Job} (h : few.Sublist many) :
    (totalNodes few).toNat ≤ (totalNodes many).toNat := by
  have hsum : (few.map fun job => job.nodes.toNat).sum ≤
      (many.map fun job => job.nodes.toNat).sum :=
    (h.map _).sum_le_sum fun n _ => Nat.zero_le n
  rw [toNat_totalNodes, toNat_totalNodes]
  omega

/-- Jobs of which each one needs as many nodes as its counterpart need as many together. -/
lemma totalNodes_le_of_forall₂ {few many : List Job}
    (h : List.Forall₂ (fun a b => a.nodes.toNat ≤ b.nodes.toNat) few many) :
    (totalNodes few).toNat ≤ (totalNodes many).toNat := by
  have hnodes : List.Forall₂ (· ≤ ·) (few.map fun job => job.nodes.toNat)
      (many.map fun job => job.nodes.toNat) := by
    rwa [List.forall₂_map_left_iff, List.forall₂_map_right_iff]
  have hsum := hnodes.sum_le_sum
  rw [toNat_totalNodes, toNat_totalNodes]
  omega

lemma totalNodes_perm {xs ys : List Job} (h : xs.Perm ys) : totalNodes xs = totalNodes ys := by
  rw [← UInt64.toNat_inj, toNat_totalNodes, toNat_totalNodes, (h.map _).sum_eq]

lemma totalNodes_append (xs ys : List Job) :
    totalNodes (xs ++ ys) = Count.add (totalNodes xs) (totalNodes ys) := by
  rw [← UInt64.toNat_inj, Count.toNat_add, toNat_totalNodes, toNat_totalNodes, toNat_totalNodes,
    List.map_append, List.sum_append]
  omega

/-- **The total is the sum, as far as it is a count.**  However the node counts are distributed, the
total of a list is the sum of its node counts in natural numbers, or the greatest count if the sum
is greater.  So the order of a list does not matter, and the total of two lists, one after the
other, is the sum of their totals, which again stops at the greatest count.  The passes never lower
the total of a list, and criteria never raise it. -/
theorem totalNodes_clamped :
    (∀ jobs : List Job, (totalNodes jobs).toNat =
      min (jobs.map fun job => job.nodes.toNat).sum (2 ^ 64 - 1)) ∧
    (∀ xs ys : List Job, xs.Perm ys → totalNodes xs = totalNodes ys) ∧
    (∀ xs ys : List Job, totalNodes (xs ++ ys) = Count.add (totalNodes xs) (totalNodes ys) ∧
      (totalNodes (xs ++ ys)).toNat =
        min ((totalNodes xs).toNat + (totalNodes ys).toNat) (2 ^ 64 - 1)) ∧
    (∀ (shape : NodeShape) (jobs : List Job),
      totalNodes jobs ≤ totalNodes (reconcile shape jobs).value) ∧
    ∀ (criteria : Criteria) (jobs : List Job),
      totalNodes (criteria.select jobs).value ≤ totalNodes jobs := by
  refine ⟨toNat_totalNodes, fun xs ys => totalNodes_perm, ?_, ?_, ?_⟩
  · intro xs ys
    have hsum := totalNodes_append xs ys
    refine ⟨hsum, ?_⟩
    rw [hsum, Count.toNat_add]
    rfl
  · intro shape jobs
    rw [UInt64.le_iff_toNat_le, value_reconcile]
    refine totalNodes_le_of_forall₂ ?_
    rw [List.forall₂_map_right_iff, List.forall₂_same]
    exact fun job _ => (Job.raised_reconcile shape job).nodes_le
  · intro criteria jobs
    rw [UInt64.le_iff_toNat_le, Criteria.value_select]
    exact totalNodes_le_of_sublist List.filter_sublist

/-- Two jobs whose node counts together are one more than the greatest count. -/
def crowd : List Job := [{ id := "1", nodes := Count.greatest }, { id := "2", nodes := 1 }]

/-- In either order, the jobs need as many nodes as can be counted. -/
theorem totalNodes_clamped_crowd :
    crowd.Perm crowd.reverse ∧ totalNodes crowd = totalNodes crowd.reverse ∧
      (crowd.map fun job => job.nodes.toNat).sum = 2 ^ 64 ∧
      (totalNodes crowd).toNat = 2 ^ 64 - 1 := by
  have hperm : crowd.Perm crowd.reverse := crowd.reverse_perm.symm
  have hsum : (crowd.map fun job => job.nodes.toNat).sum = 2 ^ 64 := by decide
  have htotal := totalNodes_clamped.1 crowd
  rw [hsum] at htotal
  exact ⟨hperm, totalNodes_clamped.2.1 _ _ hperm, hsum, htotal.trans (by decide)⟩

end Requirement

end NodeDemand
