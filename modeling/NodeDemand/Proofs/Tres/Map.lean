/-
# Resource maps by their counts

A resource map has a count for a name exactly if it has an entry with both (`mem_entries_iff`), so
it is determined by its counts (`ext_find?`).  The map of a list of items has for every name of the
list the count that stands last with it (`find?_ofList_eq_some_iff`).
-/
import NodeDemand.Proofs.Lookup
import NodeDemand.Tres.Basic
import Mathlib.Data.List.Sort
import Mathlib.Data.List.Induction
import Mathlib.Tactic.Lemma

namespace NodeDemand.Tres

/-! ### Entries and counts -/

lemma nodup_names (t : Tres) : (t.entries.map Prod.fst).Nodup := by
  rw [List.Nodup, List.pairwise_map]
  exact t.sorted.imp fun hlt => String.ne_of_lt hlt

/-- A map has a count for a name exactly if it has an entry with both. -/
lemma mem_entries_iff {t : Tres} {name : String} {count : UInt64} :
    (name, count) ∈ t.entries ↔ t.find? name = some count :=
  (lookup_eq_some_iff_mem t.nodup_names).symm

lemma entries_injective {a b : Tres} (h : a.entries = b.entries) : a = b := by
  cases a
  cases b
  simpa using h

/-- A map is determined by its counts. -/
lemma ext_find? {a b : Tres} (h : ∀ name count, a.find? name = some count ↔
    b.find? name = some count) : a = b := by
  have hirrefl : Std.Irrefl fun a b : String × UInt64 => a.1 < b.1 :=
    ⟨fun a => String.lt_irrefl a.1⟩
  have hantisymm : Std.Antisymm fun a b : String × UInt64 => a.1 < b.1 :=
    ⟨fun a b hab hba => absurd (String.lt_trans hab hba) (String.lt_irrefl a.1)⟩
  refine entries_injective (a.sorted.eq_of_mem_iff b.sorted ?_)
  rintro ⟨name, count⟩
  rw [mem_entries_iff, mem_entries_iff, h]

/-! ### The map of a list -/

/-- A name stands in a list of items with a count, and no more after that. -/
def IsLastCount (items : List (String × UInt64)) (name : String) (count : UInt64) : Prop :=
  ∃ before after, items = before ++ (name, count) :: after ∧ ∀ item ∈ after, item.1 ≠ name

/-- Of two items with one name the later one counts. -/
lemma find?_ofList (items : List (String × UInt64)) (name : String) :
    (ofList items).find? name = items.reverse.lookup name := by
  induction items using List.reverseRecOn with
  | nil => rfl
  | append_singleton items item ih =>
    have hlast : ofList (items ++ [item]) = (ofList items).insert item.1 item.2 := by
      rw [ofList, List.foldl_append]
      rfl
    rw [hlast, find?_insert, ih, List.reverse_append, List.reverse_singleton,
      List.singleton_append, lookup_entry_cons]

lemma find?_ofList_eq_some_iff {items : List (String × UInt64)} {name : String} {count : UInt64} :
    (ofList items).find? name = some count ↔ IsLastCount items name count := by
  rw [find?_ofList, List.lookup_eq_some_iff]
  simp only [bne_iff_ne, ne_eq]
  constructor
  · rintro ⟨after, before, hitems, hafter⟩
    refine ⟨before.reverse, after.reverse, ?_, ?_⟩
    · rw [← List.reverse_reverse items, hitems, List.reverse_append, List.reverse_cons,
        List.append_assoc, List.singleton_append]
    · exact fun item hitem heq => hafter item (List.mem_reverse.1 hitem) heq.symm
  · rintro ⟨before, after, rfl, hafter⟩
    refine ⟨after.reverse, before.reverse, ?_, ?_⟩
    · rw [List.reverse_append, List.reverse_cons, List.append_assoc, List.singleton_append]
    · exact fun item hitem heq => hafter item (List.mem_reverse.1 hitem) heq.symm

/-- A map that has the counts of a list, each at its last place, is the map of the list. -/
lemma eq_ofList_iff {t : Tres} {items : List (String × UInt64)} :
    t = ofList items ↔ ∀ name count, t.find? name = some count ↔ IsLastCount items name count := by
  simp only [← find?_ofList_eq_some_iff]
  constructor
  · rintro rfl name count
    rfl
  · exact ext_find?

/-- The map that binds the entries of a map, in any order, is that map. -/
lemma ofList_eq_of_perm {t : Tres} {items : List (String × UInt64)} (h : items.Perm t.entries) :
    ofList items = t := by
  have hperm : items.reverse.Perm t.entries := items.reverse_perm.trans h
  refine ext_find? fun name count => ?_
  rw [find?_ofList, ← lookup_eq_of_perm hperm.symm t.nodup_names, find?]

end NodeDemand.Tres
