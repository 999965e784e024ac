/-
# The grammar of resource lists

A resource list is the word `N/A` or a sequence of items between commas.  An item is spelled as a
name, a colon and digits whose value is a count (`Spelling`), and `listText` is the text of a
sequence of items.  The reader takes names and digits as far as they go and never goes back, which
loses nothing: a name ends at a colon, and digits end at a comma or at the end of the text.

* `takeItem_text` and `exists_spelling_of_takeItem` say that the reader takes an item exactly where
  one is spelled;
* `readItems_eq_ok_iff` says the same of a sequence of items;
* `ofText_grammar` says which texts are resource lists, and which map a list stands for.
-/
import NodeDemand.Proofs.Result
import NodeDemand.Proofs.Text.Numeral
import NodeDemand.Proofs.Tres.Map
import NodeDemand.Text.Lines
import NodeDemand.Tres.Reader

namespace NodeDemand.Tres

/-- An item of a resource list as it is spelled. -/
structure Spelling where
  /-- The characters of the name. -/
  name : List Char
  /-- The digits of the count. -/
  digits : List Char
  name_ne_nil : name ≠ []
  isNameChar_of_mem : ∀ c ∈ name, isNameChar c = true
  digits_ne_nil : digits ≠ []
  isDigit_of_mem : ∀ c ∈ digits, c.isDigit = true
  /-- The value of the digits is a count. -/
  value_lt : Decimal.value digits < UInt64.size

namespace Spelling

/-- The text of an item. -/
def text (s : Spelling) : List Char := s.name ++ ':' :: s.digits

/-- The name and the count of an item. -/
def item (s : Spelling) : String × UInt64 :=
  (String.ofList s.name, UInt64.ofNat (Decimal.value s.digits))

lemma count?_digits (s : Spelling) : Decimal.count? s.digits = some s.item.2 :=
  if_pos s.value_lt

end Spelling

/-! ### One item -/

lemma isNameChar_colon : isNameChar ':' = false := by decide +kernel

/-- A text does not go on with a character of a name at its start. -/
def StopsName (rest : List Char) : Prop := ∀ c, rest.head? = some c → isNameChar c = false

/-- Where no character of a name stands, a name is expected. -/
lemma takeItem_of_stopsName {text : List Char} (h : StopsName text) :
    takeItem text = .error (.expected .name text) := by
  have htake : text.takeWhile isNameChar = [] := @Text.takeWhile_run _ [] text (by simp) h
  rw [takeItem, htake]
  rfl

section Named

variable {name rest : List Char} (hne : name ≠ []) (hname : ∀ c ∈ name, isNameChar c = true)
include hne hname

/-- Where a name ends and no colon stands, a colon is expected. -/
lemma takeItem_of_ne_colon (hstop : StopsName rest) (hcolon : rest.head? ≠ some ':') :
    takeItem (name ++ rest) = .error (.expected .colon rest) := by
  have htake := Text.takeWhile_run hname hstop
  have hdrop := Text.dropWhile_run hname hstop
  have hempty : name.isEmpty = false := List.isEmpty_eq_false_iff.2 hne
  simp only [takeItem, htake, hdrop, hempty]
  cases rest with
  | nil => rfl
  | cons c rest =>
    have hc : c ≠ ':' := fun heq => hcolon (heq ▸ rfl)
    simp [hc]

/-- A count is read behind a name and a colon. -/
lemma takeItem_colon : takeItem (name ++ ':' :: rest) =
    (takeCount rest).map fun (count, left) => ((String.ofList name, count), left) := by
  have hcolon : StopsName (':' :: rest) := by
    intro c hc
    rw [List.head?_cons, Option.some.injEq] at hc
    rw [← hc, isNameChar_colon]
  have htake := Text.takeWhile_run hname hcolon
  have hdrop := Text.dropWhile_run hname hcolon
  have hempty : name.isEmpty = false := List.isEmpty_eq_false_iff.2 hne
  simp only [takeItem, htake, hdrop, hempty]
  rfl

end Named

/-- An item that is not followed by a digit is taken whole. -/
lemma takeItem_text (s : Spelling) {rest : List Char} (hrest : StopsCount rest) :
    takeItem (s.text ++ rest) = .ok (s.item, rest) := by
  rw [Spelling.text, List.append_assoc, List.cons_append,
    takeItem_colon s.name_ne_nil s.isNameChar_of_mem,
    takeCount_digits ⟨s.digits_ne_nil, s.isDigit_of_mem⟩ s.count?_digits hrest]
  rfl

/-- What is taken as an item is spelled at the start of the text. -/
lemma exists_spelling_of_takeItem {text rest : List Char} {item : String × UInt64}
    (h : takeItem text = .ok (item, rest)) :
    ∃ s : Spelling, s.item = item ∧ text = s.text ++ rest ∧ StopsCount rest := by
  have hsplit := List.takeWhile_append_dropWhile (p := isNameChar) (l := text)
  simp only [takeItem] at h
  split at h
  · exact absurd h (by simp)
  · rename_i hempty
    split at h
    · rename_i after hafter
      obtain ⟨⟨count, left⟩, hcount, htaken⟩ := map_eq_ok_iff.1 h
      obtain ⟨rfl, rfl⟩ := Prod.mk.inj htaken
      obtain ⟨digits, hdigits, hvalue, rfl, hstop⟩ := exists_digits_of_takeCount hcount
      -- a count that is too great is not taken, so the digits stand for the count itself
      obtain ⟨hlt, rfl⟩ : Decimal.value digits < UInt64.size ∧
          UInt64.ofNat (Decimal.value digits) = count := by
        simpa [Decimal.count?] using hvalue
      refine ⟨⟨text.takeWhile isNameChar, digits, by simpa using hempty,
        fun c hc => List.mem_takeWhile_imp hc, hdigits.ne_nil, hdigits.isDigit_of_mem, hlt⟩, rfl,
        ?_, hstop⟩
      rw [hafter] at hsplit
      simpa [Spelling.text] using hsplit.symm
    · exact absurd h (by simp)

/-! ### Sequences of items -/

/-- The text of items between commas. -/
def listText (items : List Spelling) : List Char := Text.joinWith [','] (items.map Spelling.text)

/-- The text of items that each stand behind a comma. -/
def moreText (items : List Spelling) : List Char := items.flatMap fun s => ',' :: s.text

lemma moreText_cons (s : Spelling) (items : List Spelling) :
    moreText (s :: items) = ',' :: (s.text ++ moreText items) := rfl

/-- Items between commas are an item and then items behind commas. -/
lemma listText_cons (s : Spelling) (items : List Spelling) :
    listText (s :: items) = s.text ++ moreText items := by
  induction items generalizing s with
  | nil => simp [listText, moreText, Text.joinWith]
  | cons next items ih =>
    have hstep : listText (s :: next :: items) = s.text ++ [','] ++ listText (next :: items) := rfl
    rw [hstep, ih, moreText_cons, List.append_assoc, List.singleton_append]

lemma stopsCount_moreText (items : List Spelling) {rest : List Char} (hrest : StopsCount rest) :
    StopsCount (moreText items ++ rest) := by
  cases items with
  | nil => exact hrest
  | cons s items =>
    intro c hc
    rw [moreText_cons, List.cons_append, List.head?_cons, Option.some.injEq] at hc
    rw [← hc]
    decide

lemma takeMore_of_ok {text rest : List Char} {item : String × UInt64}
    (h : takeItem text = .ok (item, rest)) :
    takeMore (',' :: text) = (item :: (takeMore rest).1, (takeMore rest).2) := by
  rw [takeMore]
  split
  · rename_i taken left htaken
    rw [h, Except.ok.injEq, Prod.mk.injEq] at htaken
    obtain ⟨rfl, rfl⟩ := htaken
    rfl
  · rename_i error herror
    rw [h] at herror
    exact absurd herror (by simp)

lemma takeMore_of_error {text : List Char} {error : SyntaxError}
    (h : takeItem text = .error error) : takeMore (',' :: text) = ([], ',' :: text) := by
  rw [takeMore]
  split
  · rename_i taken left htaken
    rw [h] at htaken
    exact absurd htaken (by simp)
  · rfl

lemma takeMore_of_ne_comma {text : List Char} (h : ∀ rest, text ≠ ',' :: rest) :
    takeMore text = ([], text) := by
  rw [takeMore]
  exact h

/-- Items behind commas are taken, and then what can be taken of the rest. -/
lemma takeMore_moreText (items : List Spelling) {rest : List Char} (hrest : StopsCount rest) :
    takeMore (moreText items ++ rest) =
      (items.map Spelling.item ++ (takeMore rest).1, (takeMore rest).2) := by
  induction items with
  | nil => rfl
  | cons s items ih =>
    rw [moreText_cons, List.cons_append, List.append_assoc,
      takeMore_of_ok (takeItem_text s (stopsCount_moreText items hrest)), ih]
    rfl

/-- What is taken as further items is spelled at the start of the text, and the rest is left. -/
lemma exists_spellings_takeMore (text : List Char) :
    ∃ items : List Spelling, items.map Spelling.item = (takeMore text).1 ∧
      text = moreText items ++ (takeMore text).2 := by
  induction text using takeMore.induct with
  | case1 text item rest htaken ih =>
    obtain ⟨s, rfl, rfl, -⟩ := exists_spelling_of_takeItem htaken
    obtain ⟨items, hitems, hrest⟩ := ih
    rw [takeMore_of_ok htaken]
    refine ⟨s :: items, by rw [List.map_cons, hitems], ?_⟩
    rw [moreText_cons, List.cons_append, List.append_assoc, ← hrest]
  | case2 text error herror =>
    -- the comma is given back, so it is part of what is left
    rw [takeMore_of_error herror]
    exact ⟨[], rfl, rfl⟩
  | case3 text hcomma =>
    rw [takeMore_of_ne_comma hcomma]
    exact ⟨[], rfl, rfl⟩

/-- Items at the start of a text are read, and then what can be read of the rest, which has to be all
of it. -/
lemma readItems_listText {items : List Spelling} (hne : items ≠ []) {rest : List Char}
    (hrest : StopsCount rest) : readItems (listText items ++ rest) =
      if (takeMore rest).2.isEmpty then .ok (items.map Spelling.item ++ (takeMore rest).1)
      else .error (.expected .ending (takeMore rest).2) := by
  obtain ⟨s, more, rfl⟩ := List.exists_cons_of_ne_nil hne
  rw [listText_cons, List.append_assoc, readItems,
    takeItem_text s (stopsCount_moreText more hrest)]
  simp only [takeMore_moreText more hrest]
  rfl

/-- A text is read as items exactly if they are spelled in it, between commas and with nothing
else. -/
lemma readItems_eq_ok_iff {text : List Char} {items : List (String × UInt64)} :
    readItems text = .ok items ↔
      ∃ spelled : List Spelling, spelled ≠ [] ∧ text = listText spelled ∧
        spelled.map Spelling.item = items := by
  constructor
  · intro h
    simp only [readItems] at h
    split at h
    · exact absurd h (by simp)
    · rename_i item rest htaken
      obtain ⟨s, rfl, rfl, -⟩ := exists_spelling_of_takeItem htaken
      obtain ⟨more, hmore, hrest⟩ := exists_spellings_takeMore rest
      split at h
      · rename_i hempty
        obtain rfl := Except.ok.inj h
        refine ⟨s :: more, List.cons_ne_nil s more, ?_, by rw [List.map_cons, hmore]⟩
        rw [List.isEmpty_iff.1 hempty, List.append_nil] at hrest
        rw [listText_cons, ← hrest]
      · exact absurd h (by simp)
  · rintro ⟨spelled, hne, rfl, rfl⟩
    have hread := readItems_listText hne stopsCount_nil
    rw [takeMore_of_ne_comma (by simp), List.append_nil, List.append_nil] at hread
    exact hread

/-! ### Resource lists -/

/-- A sequence of items has a colon, which `N/A` has not. -/
lemma listText_ne_noneText {items : List Spelling} (h : items ≠ []) :
    listText items ≠ noneText := by
  obtain ⟨s, more, rfl⟩ := List.exists_cons_of_ne_nil h
  have hcolon : ':' ∈ listText (s :: more) := by simp [listText_cons, Spelling.text]
  intro heq
  rw [heq] at hcolon
  exact absurd hcolon (by decide)

/-- The map of a list that is not empty has a count. -/
lemma ofList_ne_empty {items : List (String × UInt64)} (h : items ≠ []) : ofList items ≠ empty := by
  intro heq
  have hlast : (ofList items).find? (items.getLast h).1 = some (items.getLast h).2 := by
    rw [find?_ofList_eq_some_iff]
    exact ⟨items.dropLast, [], (List.dropLast_append_getLast h).symm, by simp⟩
  rw [heq, find?_empty] at hlast
  exact absurd hlast (by simp)

/-- What a text is read as. -/
lemma read_eq_ok_iff {text : List Char} {t : Tres} :
    read text = .ok t ↔ (Text.trim text = noneText ∧ t = empty) ∨
      ∃ items : List Spelling, items ≠ [] ∧ Text.trim text = listText items ∧
        t = ofList (items.map Spelling.item) := by
  rw [read]
  by_cases hnone : Text.trim text = noneText
  · -- the word is looked for first, so no list may look like it
    have hlist : ∀ items : List Spelling, items ≠ [] → Text.trim text ≠ listText items := by
      intro items hitems heq
      exact listText_ne_noneText hitems (heq.symm.trans hnone)
    rw [if_pos hnone]
    constructor
    · intro h
      exact Or.inl ⟨hnone, (Except.ok.inj h).symm⟩
    · rintro (⟨-, rfl⟩ | ⟨items, hne, htext, -⟩)
      · rfl
      · exact absurd htext (hlist items hne)
  · rw [if_neg hnone]
    constructor
    · intro h
      obtain ⟨found, hread, rfl⟩ := map_eq_ok_iff.1 h
      obtain ⟨items, hne, htext, rfl⟩ := readItems_eq_ok_iff.1 hread
      exact Or.inr ⟨items, hne, htext, rfl⟩
    · rintro (⟨htext, -⟩ | ⟨items, hne, htext, rfl⟩)
      · exact absurd htext hnone
      · rw [readItems_eq_ok_iff.2 ⟨items, hne, htext, rfl⟩]
        rfl

/-- **Exactly the lists of the grammar are accepted.**  A text is a resource list if, without the
blanks around it, it is `N/A` or spells one item or more between commas.  `N/A` and nothing else
stands for the empty map, and the map of items has exactly their names, each with the count that
stands last with it. -/
theorem ofText_grammar (text : String) :
    ((∃ t, ofText text = .ok t) ↔ Text.trim text.toList = noneText ∨
      ∃ items : List Spelling, items ≠ [] ∧ Text.trim text.toList = listText items) ∧
    (∀ t, ofText text = .ok t ↔ (Text.trim text.toList = noneText ∧ t = empty) ∨
      ∃ items : List Spelling, items ≠ [] ∧ Text.trim text.toList = listText items ∧
        ∀ name count, t.find? name = some count ↔
          IsLastCount (items.map Spelling.item) name count) ∧
    (ofText text = .ok empty ↔ Text.trim text.toList = noneText) := by
  rw [ofText]
  refine ⟨?_, ?_, ?_⟩
  · constructor
    · rintro ⟨t, h⟩
      rcases read_eq_ok_iff.1 h with ⟨hnone, -⟩ | ⟨items, hne, htext, -⟩
      · exact Or.inl hnone
      · exact Or.inr ⟨items, hne, htext⟩
    · rintro (hnone | ⟨items, hne, htext⟩)
      · exact ⟨empty, read_eq_ok_iff.2 (Or.inl ⟨hnone, rfl⟩)⟩
      · exact ⟨_, read_eq_ok_iff.2 (Or.inr ⟨items, hne, htext, rfl⟩)⟩
  · intro t
    simp only [read_eq_ok_iff, eq_ofList_iff]
  · rw [read_eq_ok_iff]
    constructor
    · rintro (⟨hnone, -⟩ | ⟨items, hne, -, hempty⟩)
      · exact hnone
      · exact absurd hempty.symm (ofList_ne_empty (by simpa using hne))
    · exact fun hnone => Or.inl ⟨hnone, rfl⟩

end NodeDemand.Tres
