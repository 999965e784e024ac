/-
# Keys of a document

No key occurs twice in the outermost table of a document that is read (`distinct_read`), so the
value of a key is the value of its only entry.  Whatever a line does to that table, it adds an
entry with a new key or changes the value of one key (`Touched`); that is all that the proof needs
to know about lines.
-/
import NodeDemand.Toml.Reader
import Mathlib.Data.List.Nodup
import Mathlib.Tactic.Lemma

namespace NodeDemand.Toml

namespace Entries

variable {es es' : Entries} {key : String} {v : Value}

/-- No key occurs twice. -/
def Distinct (es : Entries) : Prop := (es.map Prod.fst).Nodup

/-- The second entries are the first ones with a new key, or with another value for a key. -/
inductive Touched (es : Entries) : Entries → Prop
  | added {key : String} {v : Value} (hnew : es.lookup key = none) : Touched es (es ++ [(key, v)])
  | changed (key : String) (v : Value) : Touched es (put key v es)

lemma lookup_eq_none_iff_not_mem : es.lookup key = none ↔ key ∉ es.map Prod.fst := by
  rw [List.lookup_eq_none_iff, List.mem_map]
  constructor
  · rintro h ⟨e, he, rfl⟩
    exact absurd (h e he) (by simp)
  · exact fun h e he => bne_iff_ne.2 fun hkey => h ⟨e, he, hkey.symm⟩

lemma mem_keys_put {other : String} :
    other ∈ (put key v es).map Prod.fst ↔ other = key ∨ other ∈ es.map Prod.fst := by
  induction es with
  | nil => simp [put]
  | cons e rest ih =>
    rw [put]
    split
    · rename_i heq
      simp [heq]
    · rw [List.map_cons, List.mem_cons, ih, List.map_cons, List.mem_cons, or_left_comm]

lemma Distinct.put (h : es.Distinct) : (Entries.put key v es).Distinct := by
  induction es with
  | nil => exact List.nodup_singleton key
  | cons e rest ih =>
    obtain ⟨hnew, hrest⟩ := List.nodup_cons.1 h
    rw [Entries.put]
    split
    · rename_i heq
      rw [Distinct, List.map_cons, ← heq]
      exact h
    · rename_i hne
      refine List.nodup_cons.2 ⟨?_, ih hrest⟩
      rw [mem_keys_put, not_or]
      exact ⟨hne, hnew⟩

lemma Touched.distinct (htouched : Touched es es') (h : es.Distinct) : es'.Distinct := by
  cases htouched with
  | added hnew =>
    rw [Distinct, List.map_append, List.nodup_append]
    refine ⟨h, List.nodup_singleton _, ?_⟩
    rintro _ hmem _ hkey rfl
    rw [List.mem_singleton.1 hkey] at hmem
    exact lookup_eq_none_iff_not_mem.1 hnew hmem
  | changed key v => exact h.put

/-! ### What changes the entries -/

lemma touched_define {path : List String} (h : define v path es = some es') : Touched es es' := by
  unfold define at h
  split at h
  · exact absurd h (by simp)
  · split at h
    · rename_i hnew
      obtain rfl := Option.some.inj h
      exact .added hnew
    · exact absurd h (by simp)
  · split at h
    · rename_i hnew
      obtain ⟨inner, -, rfl⟩ := Option.map_eq_some_iff.1 h
      exact .added hnew
    · obtain ⟨inner, -, rfl⟩ := Option.map_eq_some_iff.1 h
      exact .changed _ _
    · obtain ⟨inner, -, rfl⟩ := Option.map_eq_some_iff.1 h
      exact .changed _ _
    · exact absurd h (by simp)

lemma touched_openTable (h : openTable key es = some es') : Touched es es' := by
  unfold openTable at h
  split at h
  · rename_i hnew
    obtain rfl := Option.some.inj h
    exact .added hnew
  · obtain rfl := Option.some.inj h
    exact .changed _ _
  · exact absurd h (by simp)

lemma touched_openElement (h : openElement key es = some es') : Touched es es' := by
  unfold openElement at h
  split at h
  · rename_i hnew
    obtain rfl := Option.some.inj h
    exact .added hnew
  · obtain rfl := Option.some.inj h
    exact .changed _ _
  · exact absurd h (by simp)

/-- A change further inside changes the value of one key, or adds it. -/
lemma touched_change {f : Entries → Option Entries} {path : List String}
    (hf : ∀ es', f es = some es' → Touched es es') (h : change f path es = some es') :
    Touched es es' := by
  unfold change at h
  split at h
  · exact hf _ h
  · split at h
    · rename_i hnew
      obtain ⟨inner, -, rfl⟩ := Option.map_eq_some_iff.1 h
      exact .added hnew
    · exact absurd h (by simp)
    · obtain ⟨inner, -, rfl⟩ := Option.map_eq_some_iff.1 h
      exact .changed _ _
    · split at h
      · obtain ⟨inner, -, rfl⟩ := Option.map_eq_some_iff.1 h
        exact .changed _ _
      · exact absurd h (by simp)
    · exact absurd h (by simp)

end Entries

/-! ### Lines, one after the other -/

variable {draft draft' : Draft} {entries : Entries}

lemma distinct_openHeader {keys : List String} {double : Bool}
    (h : draft.openHeader keys double = some draft') (hroot : draft.root.Distinct) :
    draft'.root.Distinct := by
  obtain ⟨last, -, h⟩ := Option.bind_eq_some_iff.1 h
  obtain ⟨root, hchange, rfl⟩ := Option.map_eq_some_iff.1 h
  refine (Entries.touched_change (fun es' hopen => ?_) hchange).distinct hroot
  cases double with
  | true => exact Entries.touched_openElement hopen
  | false => exact Entries.touched_openTable hopen

lemma distinct_define {keys : List String} {v : Value} (h : draft.define keys v = some draft')
    (hroot : draft.root.Distinct) : draft'.root.Distinct := by
  obtain ⟨root, hchange, rfl⟩ := Option.map_eq_some_iff.1 h
  exact (Entries.touched_change (fun _ => Entries.touched_define) hchange).distinct hroot

/-- A line leaves the keys of the outermost table distinct. -/
lemma distinct_takeContent {s rest : List Char} (h : takeContent draft s = some (draft', rest))
    (hroot : draft.root.Distinct) : draft'.root.Distinct := by
  unfold takeContent at h
  split at h
  iterate 4
    obtain ⟨rfl, -⟩ := Prod.mk.inj (Option.some.inj h)
    exact hroot
  · obtain ⟨_, -, h⟩ := Option.bind_eq_some_iff.1 h
    obtain ⟨_, hopen, h⟩ := Option.map_eq_some_iff.1 h
    obtain ⟨rfl, -⟩ := Prod.mk.inj h
    exact distinct_openHeader hopen hroot
  · obtain ⟨_, -, h⟩ := Option.bind_eq_some_iff.1 h
    obtain ⟨_, hdefine, h⟩ := Option.map_eq_some_iff.1 h
    obtain ⟨rfl, -⟩ := Prod.mk.inj h
    exact distinct_define hdefine hroot

lemma distinct_readLines {fuel : Nat} {s : List Char} (h : readLines fuel draft s = some entries)
    (hroot : draft.root.Distinct) : entries.Distinct := by
  induction fuel generalizing draft s with
  | zero => exact absurd h (by simp [readLines])
  | succ fuel ih =>
    obtain ⟨⟨next, rest⟩, hcontent, h⟩ := Option.bind_eq_some_iff.1 h
    have hnext := distinct_takeContent hcontent hroot
    dsimp only at h
    split at h
    · obtain rfl := Option.some.inj h
      exact hnext
    · obtain ⟨more, -, hmore⟩ := Option.bind_eq_some_iff.1 h
      exact ih hmore hnext

/-- No key occurs twice in the outermost table of a document. -/
theorem distinct_read {text : String} (h : read text = some entries) : entries.Distinct := by
  unfold read at h
  split at h <;> exact distinct_readLines h List.nodup_nil

end NodeDemand.Toml
