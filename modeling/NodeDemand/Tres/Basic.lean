/-
# Trackable resources

A job asks for resources by name and count, for instance two of `gpu`.  `Tres` is such a finite
map.  Its entries are kept in strictly increasing order of their names, so a map has one
representation only; `Tres.find?_insert` says what setting a count does to the counts.
-/

namespace NodeDemand

/-- A finite map from resource names to counts. -/
structure Tres where
  /-- The names and their counts. -/
  entries : List (String × UInt64)
  /-- Names increase strictly. -/
  sorted : entries.Pairwise (fun a b => a.1 < b.1)
deriving DecidableEq, Repr

namespace Tres

/-- The map without resources. -/
def empty : Tres := ⟨[], .nil⟩

/-- The count of a resource. -/
def find? (t : Tres) (name : String) : Option UInt64 := t.entries.lookup name

/-- Entries with the count of one name set. -/
def insertEntry (name : String) (count : UInt64) :
    List (String × UInt64) → List (String × UInt64)
  | [] => [(name, count)]
  | e :: rest =>
    if name < e.1 then (name, count) :: e :: rest
    else if e.1 < name then e :: insertEntry name count rest
    else (name, count) :: rest

theorem fst_mem_insertEntry {name : String} {count : UInt64} {es : List (String × UInt64)}
    {e : String × UInt64} (h : e ∈ insertEntry name count es) : e.1 = name ∨ e ∈ es := by
  induction es with
  | nil => simp_all [insertEntry]
  | cons d rest ih =>
    simp only [insertEntry] at h
    split at h
    · simp only [List.mem_cons] at h ⊢
      rcases h with rfl | h | h
      · exact Or.inl rfl
      · exact Or.inr (Or.inl h)
      · exact Or.inr (Or.inr h)
    · split at h
      · rcases List.mem_cons.1 h with rfl | h
        · exact Or.inr (by simp)
        · rcases ih h with h | h
          · exact Or.inl h
          · exact Or.inr (List.mem_cons_of_mem _ h)
      · rcases List.mem_cons.1 h with rfl | h
        · exact Or.inl rfl
        · exact Or.inr (List.mem_cons_of_mem _ h)

theorem sorted_insertEntry {name : String} {count : UInt64} {es : List (String × UInt64)}
    (h : es.Pairwise (fun a b => a.1 < b.1)) :
    (insertEntry name count es).Pairwise (fun a b => a.1 < b.1) := by
  induction es with
  | nil => simp [insertEntry]
  | cons d rest ih =>
    obtain ⟨hd, hrest⟩ := List.pairwise_cons.1 h
    simp only [insertEntry]
    split
    · rename_i hlt
      refine List.pairwise_cons.2 ⟨fun e he => ?_, h⟩
      rcases List.mem_cons.1 he with rfl | he
      · exact hlt
      · exact String.lt_trans hlt (hd e he)
    · rename_i hge
      split
      · rename_i hlt
        refine List.pairwise_cons.2 ⟨fun e he => ?_, ih hrest⟩
        rcases fst_mem_insertEntry he with he | he
        · simpa [he] using hlt
        · exact hd e he
      · rename_i hle
        have heq : d.1 = name :=
          String.le_antisymm (String.not_lt.1 hge) (String.not_lt.1 hle)
        refine List.pairwise_cons.2 ⟨fun e he => ?_, hrest⟩
        simpa [heq] using hd e he

/-- The map with the count of one resource set. -/
def insert (t : Tres) (name : String) (count : UInt64) : Tres :=
  ⟨insertEntry name count t.entries, sorted_insertEntry t.sorted⟩

/-- The map that binds the names of a list, each to the count of its last occurrence. -/
def ofList (items : List (String × UInt64)) : Tres :=
  items.foldl (fun t item => t.insert item.1 item.2) empty

/-- The resource that stands for graphics processors. -/
def gpu : String := "gpu"

/-! ### Look-up -/

@[simp] theorem find?_empty (name : String) : empty.find? name = none := rfl

theorem lookup_entry_cons (name : String) (e : String × UInt64) (es : List (String × UInt64)) :
    (e :: es).lookup name = if name = e.1 then some e.2 else es.lookup name := by
  obtain ⟨k, v⟩ := e
  by_cases h : name = k
  · simp [h]
  · simp [List.lookup_cons, beq_eq_false_iff_ne.2 h, h]

theorem lookup_insertEntry (name other : String) (count : UInt64) (es : List (String × UInt64)) :
    (insertEntry name count es).lookup other =
      if other = name then some count else es.lookup other := by
  induction es with
  | nil => rw [insertEntry, lookup_entry_cons]
  | cons d rest ih =>
    rw [insertEntry]
    split
    · rw [lookup_entry_cons]
    · rename_i hge
      split
      · rename_i hlt
        rw [lookup_entry_cons, ih, lookup_entry_cons]
        by_cases h : other = d.1
        · have hn : other ≠ name := by
            rintro rfl
            exact String.lt_irrefl _ (h ▸ hlt)
          rw [if_pos h, if_neg hn, if_pos h]
        · rw [if_neg h, if_neg h]
      · rename_i hle
        have heq : d.1 = name := String.le_antisymm (String.not_lt.1 hge) (String.not_lt.1 hle)
        rw [lookup_entry_cons, lookup_entry_cons, heq]
        by_cases h : other = name
        · rw [if_pos h, if_pos h]
        · rw [if_neg h, if_neg h, if_neg h]

/-- After setting a count the name has that count, and every other name has its own. -/
theorem find?_insert (t : Tres) (name other : String) (count : UInt64) :
    (t.insert name count).find? other = if other = name then some count else t.find? other :=
  lookup_insertEntry name other count t.entries

end Tres

end NodeDemand
