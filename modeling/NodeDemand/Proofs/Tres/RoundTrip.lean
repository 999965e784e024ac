/-
# Resource lists read back

A map whose names are made of name characters is written as a list from which the same map is read
(`read_write`).  Its entries are written as items of a list (`exists_spellings`), and a list has no
blank at its ends (`trim_listText`).
-/
import NodeDemand.Proofs.Text.Trim
import NodeDemand.Proofs.Tres.Grammar
import NodeDemand.Tres.Writer

namespace NodeDemand

namespace Text

/-- No character lies in two classes whose ranges are apart from each other. -/
lemma Ranges.contains_eq_false_of_apart {rs ss : Ranges}
    (h : ∀ r ∈ rs, ∀ s ∈ ss, r.2 < s.1 ∨ s.2 < r.1) {c : Char} (hc : rs.contains c = true) :
    ss.contains c = false := by
  rw [Bool.eq_false_iff]
  intro hs
  obtain ⟨r, hr, hr1, hr2⟩ := contains_iff.1 hc
  obtain ⟨s, hs, hs1, hs2⟩ := contains_iff.1 hs
  rcases h r hr s hs with hapart | hapart <;> omega

lemma isBlank_of_isDigit {c : Char} (h : c.isDigit = true) : isBlank c = false := by
  have hdigit : Ranges.contains [(0x30, 0x39)] c = true := by
    rw [Char.isDigit, Bool.and_eq_true, decide_eq_true_eq, decide_eq_true_eq] at h
    exact Ranges.contains_iff.2 ⟨_, List.mem_singleton_self _, h⟩
  exact Ranges.contains_eq_false_of_apart (by decide) hdigit

end Text

namespace Tres

/-- Blanks are no name characters. -/
lemma isBlank_of_isNameChar {c : Char} (h : isNameChar c = true) : Text.isBlank c = false := by
  have hapart : ∀ r ∈ Text.blankRanges, ∀ s ∈ Text.alphanumericRanges, r.2 < s.1 ∨ s.2 < r.1 := by
    decide +kernel
  rw [Bool.eq_false_iff]
  intro hblank
  have halpha : Text.isAlphanumeric c = false :=
    Text.Ranges.contains_eq_false_of_apart hapart hblank
  simp only [isNameChar, halpha, Bool.false_or, Bool.or_eq_true, beq_iff_eq] at h
  rcases h with ((rfl | rfl) | rfl) | rfl <;> exact absurd hblank (by decide)

/-- A name that a resource list can hold. -/
def IsName (name : String) : Prop := name ≠ "" ∧ ∀ c ∈ name.toList, isNameChar c = true

instance (name : String) : Decidable (IsName name) :=
  decidable_of_iff (name ≠ "" ∧ name.toList.all isNameChar = true)
    (and_congr_right' List.all_eq_true)

/-! ### Entries as items -/

/-- A written entry is an item of a list. -/
lemma exists_spelling {entry : String × UInt64} (h : IsName entry.1) :
    ∃ s : Spelling, s.item = entry ∧ s.text = writeItem entry := by
  obtain ⟨hne, hchars⟩ := h
  have hvalue : Decimal.value (Decimal.write entry.2.toNat) = entry.2.toNat :=
    Decimal.value_write _
  refine ⟨⟨entry.1.toList, Decimal.write entry.2.toNat, ?_, hchars, Decimal.write_ne_nil _,
    fun _ hc => Decimal.isDigit_of_mem_write hc, ?_⟩, ?_, rfl⟩
  · rwa [ne_eq, String.toList_eq_nil_iff]
  · rw [hvalue]
    exact entry.2.toNat_lt_size
  · simp [Spelling.item, hvalue]

lemma exists_spellings {entries : List (String × UInt64)} (h : ∀ e ∈ entries, IsName e.1) :
    ∃ items : List Spelling, items.map Spelling.item = entries ∧
      items.map Spelling.text = entries.map writeItem := by
  induction entries with
  | nil => exact ⟨[], rfl, rfl⟩
  | cons entry entries ih =>
    obtain ⟨s, hitem, htext⟩ := exists_spelling (h entry List.mem_cons_self)
    obtain ⟨items, hitems, htexts⟩ := ih fun e he => h e (List.mem_cons_of_mem entry he)
    exact ⟨s :: items, by simp [hitem, hitems], by simp [htext, htexts]⟩

/-- The last character of a list is the last digit of its last count. -/
lemma isDigit_getLast? {s : Spelling} {items : List Spelling} {c : Char}
    (h : (s.text ++ moreText items).getLast? = some c) : c.isDigit = true := by
  induction items generalizing s with
  | nil =>
    have hsplit : s.text ++ moreText [] = (s.name ++ [':']) ++ s.digits := by
      simp [Spelling.text, moreText]
    rw [hsplit, List.getLast?_append_of_ne_nil _ s.digits_ne_nil] at h
    exact s.isDigit_of_mem c (List.mem_of_getLast? h)
  | cons next items ih =>
    have hsplit : s.text ++ moreText (next :: items) =
        (s.text ++ [',']) ++ (next.text ++ moreText items) := by
      simp [moreText_cons]
    have hne : next.text ++ moreText items ≠ [] := by simp [Spelling.text]
    rw [hsplit, List.getLast?_append_of_ne_nil _ hne] at h
    exact ih h

/-- A list starts with a name and ends with a digit, so it has no blank at its ends. -/
lemma trim_listText {items : List Spelling} (h : items ≠ []) :
    Text.trim (listText items) = listText items := by
  obtain ⟨s, more, rfl⟩ := List.exists_cons_of_ne_nil h
  obtain ⟨c, name, hname⟩ := List.exists_cons_of_ne_nil s.name_ne_nil
  rw [listText_cons]
  refine Text.trim_eq_self ?_ ?_
  · intro d hd
    rw [Spelling.text, hname, List.cons_append, List.cons_append, List.head?_cons,
      Option.some.injEq] at hd
    rw [← hd]
    exact isBlank_of_isNameChar (s.isNameChar_of_mem c (by rw [hname]; exact List.mem_cons_self))
  · exact fun d hd => Text.isBlank_of_isDigit (isDigit_getLast? hd)

/-! ### The round trip -/

/-- **Written resources read back.**  The list that is written for a map is read as that map. -/
theorem read_write {t : Tres} (h : ∀ e ∈ t.entries, IsName e.1) : read t.write = .ok t := by
  rw [read_eq_ok_iff, write]
  cases hentries : t.entries with
  | nil =>
    have hempty : t = empty := entries_injective hentries
    exact Or.inl ⟨by decide, hempty⟩
  | cons entry entries =>
    obtain ⟨items, hitems, htexts⟩ := exists_spellings h
    have hne : items ≠ [] := by
      rintro rfl
      rw [hentries] at hitems
      exact absurd hitems (by simp)
    have hwrite : Text.joinWith [','] ((entry :: entries).map writeItem) = listText items := by
      rw [← hentries, ← htexts, listText]
    refine Or.inr ⟨items, hne, ?_, ?_⟩
    · simp only [List.isEmpty_cons, Bool.false_eq_true, if_false]
      rw [hwrite, trim_listText hne]
    · rw [hitems, ofList_eq_of_perm (List.Perm.refl _)]

end Tres

end NodeDemand
