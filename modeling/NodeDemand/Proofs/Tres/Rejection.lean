/-
# Where a refused resource list stops

A text that is not a resource list is refused with the place where reading it stops.

* If no item stands at the start of the text, that is where the first missing part of an item is
  expected, or the numeral whose value is no count (`ItemStops`).
* Else items are taken as long as there is a comma with another item behind it, and the end of the
  text is expected behind the last one.  What is left is `Stuck`: it goes on neither with the digits
  nor with the items before it.  A comma is given back with the bad item behind it.

There is only one way to take items until the rest is stuck, since every other way to spell items at
the start of the text takes less of it (`prefix_of_stuck`).  `ofText_rejected` puts this together.
-/
import NodeDemand.Proofs.Tres.RoundTrip

namespace NodeDemand.Tres

variable {text rest : List Char} {error : SyntaxError}

/-! ### The first item -/

/-- The text starts with an item whose digits do not go on behind it. -/
def StartsWithItem (text : List Char) : Prop :=
  ∃ (s : Spelling) (rest : List Char), text = s.text ++ rest ∧ StopsCount rest

/-- The error says where the text, which starts with no item, stops being one. -/
inductive ItemStops (text : List Char) : SyntaxError → Prop
  /-- There is no name. -/
  | name (hstop : StopsName text) : ItemStops text (.expected .name text)
  /-- There is no colon behind the name. -/
  | colon (name rest : List Char) (hne : name ≠ []) (hname : ∀ c ∈ name, isNameChar c = true)
      (htext : text = name ++ rest) (hstop : StopsName rest) (hcolon : rest.head? ≠ some ':') :
      ItemStops text (.expected .colon rest)
  /-- There are no digits behind the colon. -/
  | digits (name rest : List Char) (hne : name ≠ []) (hname : ∀ c ∈ name, isNameChar c = true)
      (htext : text = name ++ ':' :: rest) (hstop : StopsCount rest) :
      ItemStops text (.expected .digits rest)
  /-- The value of the digits behind the colon is no count. -/
  | tooLarge (name digits rest : List Char) (hne : name ≠ [])
      (hname : ∀ c ∈ name, isNameChar c = true) (htext : text = name ++ ':' :: (digits ++ rest))
      (hdigits : Decimal.IsNumeral digits) (hvalue : UInt64.size ≤ Decimal.value digits)
      (hstop : StopsCount rest) : ItemStops text (.tooLarge (digits ++ rest))

lemma ItemStops.takeItem_eq (h : ItemStops text error) : takeItem text = .error error := by
  cases h with
  | name hstop => exact takeItem_of_stopsName hstop
  | colon name rest hne hname htext hstop hcolon =>
    rw [htext, takeItem_of_ne_colon hne hname hstop hcolon]
  | digits name rest hne hname htext hstop =>
    rw [htext, takeItem_colon hne hname, takeCount_of_stopsCount hstop]
    rfl
  | tooLarge name digits rest hne hname htext hdigits hvalue hstop =>
    rw [htext, takeItem_colon hne hname, takeCount_of_size_le hdigits hvalue hstop]
    rfl

lemma startsWithItem_or_itemStops (text : List Char) :
    StartsWithItem text ∨ ∃ error, ItemStops text error := by
  obtain ⟨name, after, htext, hname, hstop⟩ := Text.exists_run isNameChar text
  rcases eq_or_ne name [] with rfl | hne
  · obtain rfl : text = after := htext
    exact Or.inr ⟨_, .name hstop⟩
  by_cases hcolon : after.head? = some ':'
  · obtain ⟨rest, rfl⟩ := List.head?_eq_some_iff.1 hcolon
    rcases stopsCount_or_exists_numeral rest with hdigit | ⟨digits, left, hdigits, rfl, hleft⟩
    · exact Or.inr ⟨_, .digits name rest hne hname htext hdigit⟩
    rcases Nat.lt_or_ge (Decimal.value digits) UInt64.size with hlt | hle
    · refine Or.inl ⟨⟨name, digits, hne, hname, hdigits.ne_nil, hdigits.isDigit_of_mem, hlt⟩, left,
        ?_, hleft⟩
      rw [htext, Spelling.text, List.append_assoc, List.cons_append]
    · exact Or.inr ⟨_, .tooLarge name digits left hne hname htext hdigits hle hleft⟩
  · exact Or.inr ⟨_, .colon name after hne hname htext hstop hcolon⟩

lemma ItemStops.not_startsWithItem (h : ItemStops text error) : ¬ StartsWithItem text := by
  rintro ⟨s, rest, rfl, hrest⟩
  have htaken := takeItem_text s hrest
  rw [h.takeItem_eq] at htaken
  exact absurd htaken (by simp)

/-- Where no item is taken there is none. -/
lemma itemStops_of_takeItem (h : takeItem text = .error error) : ItemStops text error := by
  rcases startsWithItem_or_itemStops text with ⟨s, rest, rfl, hrest⟩ | ⟨other, hother⟩
  · rw [takeItem_text s hrest] at h
    exact absurd h (by simp)
  · rw [hother.takeItem_eq] at h
    rwa [← Except.error.inj h]

/-! ### Behind the items -/

/-- The rest of a text behind items goes on neither with the last digits nor with another item. -/
structure Stuck (rest : List Char) : Prop where
  stopsCount : StopsCount rest
  /-- No item stands behind a comma. -/
  not_startsWithItem : ∀ after, rest = ',' :: after → ¬ StartsWithItem after

lemma Stuck.takeMore_eq (h : Stuck rest) : takeMore rest = ([], rest) := by
  by_cases hcomma : ∃ after, rest = ',' :: after
  · obtain ⟨after, rfl⟩ := hcomma
    rcases startsWithItem_or_itemStops after with hitem | ⟨error, hstops⟩
    · exact absurd hitem (h.not_startsWithItem after rfl)
    · exact takeMore_of_error hstops.takeItem_eq
  · exact takeMore_of_ne_comma (not_exists.1 hcomma)

/-- Items are taken until the rest is stuck. -/
lemma stuck_takeMore (h : StopsCount text) : Stuck (takeMore text).2 := by
  induction text using takeMore.induct with
  | case1 text item rest htaken ih =>
    obtain ⟨-, -, -, hrest⟩ := exists_spelling_of_takeItem htaken
    rw [takeMore_of_ok htaken]
    exact ih hrest
  | case2 text error herror =>
    rw [takeMore_of_error herror]
    refine ⟨h, fun after heq => ?_⟩
    obtain rfl := (List.cons.inj heq).2
    exact (itemStops_of_takeItem herror).not_startsWithItem
  | case3 text hcomma =>
    rw [takeMore_of_ne_comma hcomma]
    exact ⟨h, fun after heq => absurd heq (hcomma after)⟩

lemma StartsWithItem.exists_items (h : StartsWithItem text) :
    ∃ items rest, items ≠ [] ∧ text = listText items ++ rest ∧ Stuck rest := by
  obtain ⟨s, after, rfl, hafter⟩ := h
  obtain ⟨more, -, hmore⟩ := exists_spellings_takeMore after
  refine ⟨s :: more, (takeMore after).2, List.cons_ne_nil s more, ?_, stuck_takeMore hafter⟩
  rw [listText_cons, List.append_assoc, ← hmore]

variable {items : List Spelling}

/-- The end of the text is expected where the rest behind items is stuck. -/
lemma readItems_of_stuck (hne : items ≠ []) (h : Stuck rest) (hrest : rest ≠ []) :
    readItems (listText items ++ rest) = .error (.expected .ending rest) := by
  rw [readItems_listText hne h.stopsCount, h.takeMore_eq,
    if_neg (by rwa [List.isEmpty_iff])]

/-- No way to spell items at the start of a text takes more of it than one that leaves a rest that
is stuck. -/
lemma prefix_of_stuck (hne : items ≠ []) (h : Stuck rest) {others : List Spelling}
    {left : List Char} (hleft : StopsCount left)
    (heq : listText items ++ rest = listText others ++ left) :
    listText others <+: listText items := by
  obtain ⟨s, more, rfl⟩ := List.exists_cons_of_ne_nil hne
  cases others with
  | nil => exact List.nil_prefix
  | cons o others =>
    -- the first item is the same, and what is taken behind it is taken in both ways
    have htaken := takeItem_text s (stopsCount_moreText more h.stopsCount)
    rw [← List.append_assoc, ← listText_cons, heq, listText_cons, List.append_assoc,
      takeItem_text o (stopsCount_moreText others hleft), Except.ok.injEq, Prod.mk.injEq] at htaken
    have hrest := takeMore_moreText more h.stopsCount
    rw [← htaken.2, takeMore_moreText others hleft, Prod.mk.injEq, h.takeMore_eq] at hrest
    obtain ⟨further, -, hfurther⟩ := exists_spellings_takeMore left
    rw [hrest.2] at hfurther
    rw [hfurther, ← List.append_assoc] at heq
    exact ⟨moreText further, (List.append_cancel_right heq).symm⟩

/-! ### Refused texts -/

/-- Items between commas are a resource list. -/
lemma ofText_listText (hne : items ≠ []) :
    ofText (String.ofList (listText items)) = .ok (ofList (items.map Spelling.item)) := by
  rw [ofText, String.toList_ofList, read_eq_ok_iff]
  exact Or.inr ⟨items, hne, trim_listText hne, rfl⟩

lemma readItems_of_ofText {text : String} (h : ofText text = .error error) :
    readItems (Text.trim text.toList) = .error error := by
  rw [ofText, read] at h
  split at h
  · exact absurd h (by simp)
  · cases hread : readItems (Text.trim text.toList) with
    | ok items =>
      rw [hread] at h
      exact absurd h (by simp [Except.map])
    | error other =>
      rw [hread] at h
      exact congrArg Except.error (Except.error.inj h)

/-- **A refused list is shown from where it stops.**  If a refused text, without the blanks around
it, does not start with an item, then it is refused where the first missing part of an item is
expected, or at digits whose value is no count.  Otherwise the end of the text is expected before a
rest that is not empty.  What stands before the rest is a resource list of its own, and the longest
one that is spelled at the start of the text with digits that do not go on behind it.  So a later
item that is bad in any way is shown from the comma before it on. -/
theorem ofText_rejected {text : String} {error : SyntaxError} (h : ofText text = .error error) :
    (¬ StartsWithItem (Text.trim text.toList) → ItemStops (Text.trim text.toList) error) ∧
    (StartsWithItem (Text.trim text.toList) → ∃ items rest, items ≠ [] ∧ rest ≠ [] ∧
      error = .expected .ending rest ∧ Text.trim text.toList = listText items ++ rest ∧
      StopsCount rest ∧
      ofText (String.ofList (listText items)) = .ok (ofList (items.map Spelling.item)) ∧
      ∀ others left, Text.trim text.toList = listText others ++ left → StopsCount left →
        listText others <+: listText items) ∧
    ∀ items after, items ≠ [] → Text.trim text.toList = listText items ++ ',' :: after →
      ¬ StartsWithItem after → error = .expected .ending (',' :: after) := by
  have hread := readItems_of_ofText h
  generalize Text.trim text.toList = trimmed at hread
  refine ⟨?_, ?_, ?_⟩
  · intro hnot
    rcases startsWithItem_or_itemStops trimmed with hitem | ⟨other, hother⟩
    · exact absurd hitem hnot
    · rw [readItems, hother.takeItem_eq] at hread
      rwa [← Except.error.inj hread]
  · intro hitem
    obtain ⟨items, rest, hne, rfl, hstuck⟩ := hitem.exists_items
    have hrest : rest ≠ [] := by
      rintro rfl
      rw [List.append_nil, readItems_eq_ok_iff.2 ⟨items, hne, rfl, rfl⟩] at hread
      exact absurd hread (by simp)
    rw [readItems_of_stuck hne hstuck hrest] at hread
    refine ⟨items, rest, hne, hrest, (Except.error.inj hread).symm, rfl, hstuck.stopsCount,
      ofText_listText hne, ?_⟩
    exact fun others left heq hleft => prefix_of_stuck hne hstuck hleft heq
  · rintro items after hne rfl hnot
    have hstuck : Stuck (',' :: after) := by
      refine ⟨fun c hc => ?_, fun other heq => ?_⟩
      · rw [List.head?_cons, Option.some.injEq] at hc
        rw [← hc]
        decide
      · rwa [← (List.cons.inj heq).2]
    rw [readItems_of_stuck hne hstuck (List.cons_ne_nil _ _)] at hread
    exact (Except.error.inj hread).symm

/-- An item with a count that is too great, behind another item and a blank. -/
def lateOverflow : String := " gpu:1,mem:18446744073709551616"

/-- A name where a count is expected. -/
def namedCount : String := "gpu:tesla:2"

/-- The first text is shown from its comma on, behind items that are a list, and the second one from
behind its first colon. -/
theorem ofText_rejected_lateOverflow :
    ofText lateOverflow = .error (.expected .ending ",mem:18446744073709551616".toList) ∧
    (∃ items rest, items ≠ [] ∧ Text.trim lateOverflow.toList = listText items ++ rest ∧
      rest = ",mem:18446744073709551616".toList) ∧
    ∃ error, ofText namedCount = .error error ∧ ItemStops (Text.trim namedCount.toList) error ∧
      error.message = "Parser error at '\"tesla:2\"': expecting Digit" := by
  have hlate : ofText lateOverflow =
      .error (.expected .ending ",mem:18446744073709551616".toList) := by decide +kernel
  have hgpu : takeItem (Text.trim lateOverflow.toList) =
      .ok (("gpu", 1), ",mem:18446744073709551616".toList) := by decide +kernel
  have hnamed : ofText namedCount = .error (.expected .digits "tesla:2".toList) := by
    decide +kernel
  have htesla : takeItem (Text.trim namedCount.toList) =
      .error (.expected .digits "tesla:2".toList) := by decide +kernel
  obtain ⟨s, -, htext, hstop⟩ := exists_spelling_of_takeItem hgpu
  obtain ⟨items, rest, hne, -, herror, hsplit, -⟩ :=
    (ofText_rejected hlate).2.1 ⟨s, _, htext, hstop⟩
  have hrest := (SyntaxError.expected.inj herror).2
  have hstops := (ofText_rejected hnamed).1 (itemStops_of_takeItem htesla).not_startsWithItem
  exact ⟨hlate, ⟨items, rest, hne, hsplit, hrest.symm⟩,
    ⟨_, hnamed, hstops, by decide +kernel⟩⟩

end NodeDemand.Tres
