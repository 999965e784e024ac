/-
# The canonical form of resource lists

A map has many lists but is written as one of them.  A list is in canonical form (`IsCanonical`) if
its names increase by their bytes and no count has a zero in front.

* `writeItems_eq` says that the order in which the items of a map come does not matter for what is
  written: they are sorted first;
* `exists_canonical` says that what is written for a map is the canonical list of its entries;
* `text_canonical` puts this together with reading.
-/
import NodeDemand.Proofs.Text.ByteOrder
import NodeDemand.Proofs.Tres.RoundTrip

namespace NodeDemand

/-- Only the numeral of zero starts with a zero. -/
lemma Decimal.write_eq_of_head? {n : ℕ} (h : (write n).head? = some '0') : write n = ['0'] := by
  induction n using write.induct with
  | case1 n hn =>
    rw [write, if_pos hn] at h ⊢
    rw [List.head?_cons, Option.some.injEq] at h
    rw [h]
  | case2 n hn ih =>
    rw [write, if_neg hn, List.head?_append_of_ne_nil _ (write_ne_nil _)] at h
    -- the tens are not zero, so their numeral does not start with a zero
    have hvalue := value_write (n / 10)
    rw [ih h] at hvalue
    have hzero : n / 10 = 0 := hvalue.symm
    omega

namespace Tres

/-! ### Sorted items -/

/-- Whether a name does not come after another by its bytes. -/
def nameLe (a b : String × UInt64) : Bool := decide (Utf8.encode a.1 ≤ Utf8.encode b.1)

/-- The text of items that come in any order; they are sorted by the bytes of their names. -/
def writeItems (items : List (String × UInt64)) : List Char :=
  if items.isEmpty then noneText
  else Text.joinWith [','] ((items.mergeSort nameLe).map writeItem)

lemma pairwise_nameLe_mergeSort (items : List (String × UInt64)) :
    (items.mergeSort nameLe).Pairwise fun a b => nameLe a b = true := by
  refine List.pairwise_mergeSort (fun a b c hab hbc => ?_) (fun a b => ?_) items
  · rw [nameLe, decide_eq_true_eq] at hab hbc ⊢
    exact List.le_trans hab hbc
  · rw [nameLe, nameLe, Bool.or_eq_true, decide_eq_true_eq, decide_eq_true_eq]
    exact List.le_total _ _

lemma pairwise_nameLe_entries (t : Tres) : t.entries.Pairwise fun a b => nameLe a b = true := by
  refine t.sorted.imp fun hlt => ?_
  rw [nameLe, decide_eq_true_eq]
  exact List.le_of_lt (Utf8.encode_lt_encode hlt)

/-- Sorting the items of a map gives its entries. -/
lemma mergeSort_eq_entries {t : Tres} {items : List (String × UInt64)}
    (h : items.Perm t.entries) : items.mergeSort nameLe = t.entries := by
  have hperm := (List.mergeSort_perm items nameLe).trans h
  refine List.Perm.eq_of_pairwise (fun a b ha hb hab hba => ?_) (pairwise_nameLe_mergeSort items)
    (pairwise_nameLe_entries t) hperm
  rw [nameLe, decide_eq_true_eq] at hab hba
  have hname : a.1 = b.1 := Utf8.encode_injective (List.le_antisymm hab hba)
  exact List.inj_on_of_nodup_map t.nodup_names (hperm.subset ha) hb hname

/-- Whatever the order of its items, the same text is written for a map. -/
lemma writeItems_eq {t : Tres} {items : List (String × UInt64)} (h : items.Perm t.entries) :
    writeItems items = t.write := by
  have hempty : items.isEmpty = t.entries.isEmpty := by
    rw [Bool.eq_iff_iff, List.isEmpty_iff, List.isEmpty_iff]
    constructor
    · rintro rfl
      exact List.nil_perm.1 h
    · intro hnil
      rw [hnil] at h
      exact List.perm_nil.1 h
  rw [writeItems, write, hempty, mergeSort_eq_entries h]

/-! ### Canonical lists -/

/-- The names of a list increase by their bytes, and only zero is spelled with a zero in front. -/
structure IsCanonical (spelled : List Spelling) : Prop where
  /-- Names increase strictly. -/
  increasing : spelled.Pairwise fun a b => Utf8.encode a.item.1 < Utf8.encode b.item.1
  /-- There are no leading zeros. -/
  plain : ∀ s ∈ spelled, s.digits.head? = some '0' → s.digits = ['0']

/-- An item that is written as an entry has the numeral of its count. -/
lemma digits_eq_write {s : Spelling} (h : s.text = writeItem s.item) :
    s.digits = Decimal.write s.item.2.toNat := by
  rw [Spelling.text, writeItem, Spelling.item, String.toList_ofList] at h
  exact (List.cons.inj (List.append_cancel_left h)).2

lemma exists_canonical {t : Tres} (h : ∀ e ∈ t.entries, IsName e.1) :
    ∃ spelled, IsCanonical spelled ∧ spelled.map Spelling.item = t.entries ∧
      (t ≠ empty → t.write = listText spelled) := by
  obtain ⟨spelled, hitems, htexts⟩ := exists_spellings h
  refine ⟨spelled, ⟨?_, ?_⟩, hitems, ?_⟩
  · have hsorted := t.sorted
    rw [← hitems, List.pairwise_map] at hsorted
    exact hsorted.imp Utf8.encode_lt_encode
  · intro s hs hzero
    rw [← hitems, List.map_map] at htexts
    have hdigits := digits_eq_write (List.map_inj_left.1 htexts s hs)
    rw [hdigits] at hzero ⊢
    exact Decimal.write_eq_of_head? hzero
  · intro hne
    have hfilled : t.entries.isEmpty = false :=
      List.isEmpty_eq_false_iff.2 fun hnil => hne (entries_injective hnil)
    rw [write, hfilled, listText, htexts]
    rfl

/-! ### Reading and writing -/

/-- The names of a map that is read can stand in a list. -/
lemma isName_of_ofText {text : String} {t : Tres} (h : ofText text = .ok t) :
    ∀ e ∈ t.entries, IsName e.1 := by
  intro e he
  rcases read_eq_ok_iff.1 h with ⟨-, rfl⟩ | ⟨spelled, -, -, rfl⟩
  · exact absurd he List.not_mem_nil
  · obtain ⟨before, after, hitems, -⟩ := find?_ofList_eq_some_iff.1 (mem_entries_iff.1 he)
    have hmem : e ∈ spelled.map Spelling.item := by
      rw [hitems]
      exact List.mem_append_right before List.mem_cons_self
    obtain ⟨s, -, rfl⟩ := List.mem_map.1 hmem
    refine ⟨?_, ?_⟩
    · rw [Spelling.item, ne_eq, String.ofList_eq_empty_iff]
      exact s.name_ne_nil
    · rw [Spelling.item, String.toList_ofList]
      exact s.isNameChar_of_mem

lemma ofText_text {t : Tres} (h : ∀ e ∈ t.entries, IsName e.1) : ofText t.text = .ok t := by
  rw [ofText, text, String.toList_ofList, read_write h]

/-- The canonical form of a resource list. -/
def canonical (text : String) : Except SyntaxError String := (ofText text).map Tres.text

/-- **Every map has one canonical list.**  Of a map with names that a list can hold, the items in
any order are written as one text, which is read as the map.  What is written for a map that was
read is `N/A` if the map is empty, and else its items in canonical form, so two texts stand for the
same map exactly if the same is written for both, and a canonical form is its own. -/
theorem text_canonical :
    (∀ t : Tres, (∀ e ∈ t.entries, IsName e.1) →
      ∀ items : List (String × UInt64), items.Perm t.entries →
        String.ofList (writeItems items) = t.text ∧
          ofText (String.ofList (writeItems items)) = .ok t) ∧
    (∀ s t, ofText s = .ok t → (t = empty ∧ t.text = "N/A") ∨
      t ≠ empty ∧ ∃ spelled, IsCanonical spelled ∧ spelled.map Spelling.item = t.entries ∧
        t.text.toList = listText spelled) ∧
    (∀ s s' t t', ofText s = .ok t → ofText s' = .ok t' → (t = t' ↔ t.text = t'.text)) ∧
    ∀ s, (canonical s).bind canonical = canonical s := by
  refine ⟨?_, ?_, ?_, ?_⟩
  · intro t hnames items hitems
    have htext : String.ofList (writeItems items) = t.text := by rw [writeItems_eq hitems, text]
    exact ⟨htext, by rw [htext, ofText_text hnames]⟩
  · intro s t hread
    by_cases hempty : t = empty
    · subst hempty
      exact Or.inl ⟨rfl, by decide⟩
    · obtain ⟨spelled, hcanonical, hitems, htext⟩ := exists_canonical (isName_of_ofText hread)
      refine Or.inr ⟨hempty, spelled, hcanonical, hitems, ?_⟩
      rw [text, String.toList_ofList, htext hempty]
  · intro s s' t t' hread hread'
    refine ⟨congrArg text, fun htext => ?_⟩
    -- both maps are read from the one text
    have hback := ofText_text (isName_of_ofText hread)
    rw [htext, ofText_text (isName_of_ofText hread'), Except.ok.injEq] at hback
    exact hback.symm
  · intro s
    cases hread : ofText s with
    | error error => simp only [canonical, hread, Except.map, Except.bind]
    | ok t =>
      have hback := ofText_text (isName_of_ofText hread)
      simp only [canonical, hread, hback, Except.map, Except.bind]

/-- A map with the two items `gpu:4` and `license/matlab:0`. -/
def licenses : Tres := ofList [("license/matlab", 0), ("gpu", 4)]

theorem text_canonical_licenses :
    (∀ e ∈ licenses.entries, IsName e.1) ∧
    [("license/matlab", 0), ("gpu", 4)].Perm licenses.entries ∧
    ofText " license/matlab:00,gpu:1,gpu:004" = .ok licenses ∧
    ofText (String.ofList (writeItems [("license/matlab", 0), ("gpu", 4)])) = .ok licenses ∧
    licenses.text = "gpu:4,license/matlab:0" ∧
    ∃ spelled, IsCanonical spelled ∧ spelled.map Spelling.item = licenses.entries ∧
      licenses.text.toList = listText spelled := by
  have hnames : ∀ e ∈ licenses.entries, IsName e.1 := by decide +kernel
  have hperm : [("license/matlab", 0), ("gpu", 4)].Perm licenses.entries := by decide +kernel
  have hread : ofText " license/matlab:00,gpu:1,gpu:004" = .ok licenses := by decide +kernel
  have hne : licenses ≠ empty := by decide +kernel
  have htext : licenses.text = "gpu:4,license/matlab:0" := by decide +kernel
  refine ⟨hnames, hperm, hread, (text_canonical.1 licenses hnames _ hperm).2, htext, ?_⟩
  rcases text_canonical.2.1 _ _ hread with ⟨hempty, -⟩ | ⟨-, hspelled⟩
  · exact absurd hempty hne
  · exact hspelled

end Tres

end NodeDemand
