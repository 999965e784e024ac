/-
# Look-up of names that occur once

If no name occurs twice in a list of pairs, look-up finds exactly the pairs of the list
(`lookup_eq_some_iff_mem`), so their order does not matter to it (`lookup_eq_of_perm`).
-/
import Mathlib.Data.List.Nodup
import Mathlib.Tactic.Lemma

namespace NodeDemand

variable {α β : Type*} [BEq α] [LawfulBEq α] {l l' : List (α × β)}

lemma lookup_eq_some_iff_mem (h : (l.map Prod.fst).Nodup) {name : α} {v : β} :
    l.lookup name = some v ↔ (name, v) ∈ l := by
  constructor
  · intro hlookup
    obtain ⟨before, after, rfl, -⟩ := List.lookup_eq_some_iff.1 hlookup
    exact List.mem_append_right before List.mem_cons_self
  · intro hmem
    obtain ⟨before, after, rfl⟩ := List.append_of_mem hmem
    refine List.lookup_eq_some_iff.2 ⟨before, after, rfl, fun p hp => ?_⟩
    rw [List.map_append, List.map_cons] at h
    have hdisjoint := (List.nodup_append.1 h).2.2
    exact bne_iff_ne.2 (hdisjoint p.1 (List.mem_map_of_mem hp) name List.mem_cons_self).symm

lemma lookup_eq_of_perm (hperm : l.Perm l') (h : (l.map Prod.fst).Nodup) (name : α) :
    l.lookup name = l'.lookup name := by
  have h' : (l'.map Prod.fst).Nodup := (hperm.map Prod.fst).nodup_iff.1 h
  apply Option.ext
  intro v
  rw [lookup_eq_some_iff_mem h, lookup_eq_some_iff_mem h', hperm.mem_iff]

end NodeDemand
