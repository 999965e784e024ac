/-
# Numerals of counts are read back

Both readers of counts, the one of table cells (`countOfField_write`) and the one of resource
lists (`readCount_write`), read the decimal numeral of a count as that count.

A numeral is one digit or more and nothing else, so it may have any number of leading zeros.  A text
is a count exactly if it is a numeral with the value of a count (`readCount_eq_ok_iff`), and a cell
is one exactly if it is such a text, perhaps with a plus sign before it (`countOfField_eq_ok_iff`).
A numeral with a greater value is refused as too large by both, however long it is
(`readCount_of_size_le` and `countOfField_of_size_le`).
-/
import NodeDemand.Text.Expected
import Mathlib.Data.List.TakeWhile

namespace NodeDemand

/-! ### Runs of characters -/

namespace Text

variable {p : Char → Bool} {run rest : List Char}

/-- A run of characters of a class is taken whole from a text that does not go on with another. -/
lemma takeWhile_run (hrun : ∀ c ∈ run, p c = true)
    (hrest : ∀ c, rest.head? = some c → p c = false) : (run ++ rest).takeWhile p = run := by
  rw [List.takeWhile_append_of_pos hrun]
  cases rest with
  | nil => exact List.append_nil run
  | cons c rest => rw [List.takeWhile_cons_of_neg (by simp [hrest c rfl]), List.append_nil]

lemma dropWhile_run (hrun : ∀ c ∈ run, p c = true)
    (hrest : ∀ c, rest.head? = some c → p c = false) : (run ++ rest).dropWhile p = rest := by
  rw [List.dropWhile_append_of_pos hrun]
  cases rest with
  | nil => rfl
  | cons c rest => rw [List.dropWhile_cons_of_neg (by simp [hrest c rfl])]

/-- Every text starts with a run of characters of a class that goes as far as possible. -/
lemma exists_run (p : Char → Bool) (s : List Char) :
    ∃ run rest, s = run ++ rest ∧ (∀ c ∈ run, p c = true) ∧
      ∀ c, rest.head? = some c → p c = false := by
  refine ⟨s.takeWhile p, s.dropWhile p, List.takeWhile_append_dropWhile.symm,
    fun c hc => List.mem_takeWhile_imp hc, fun c hc => ?_⟩
  have hnot := List.head?_dropWhile_not p s
  rw [hc] at hnot
  simpa using hnot

end Text

/-! ### Numerals -/

namespace Decimal

/-- The text is a numeral. -/
structure IsNumeral (s : List Char) : Prop where
  ne_nil : s ≠ []
  isDigit_of_mem : ∀ c ∈ s, c.isDigit = true

lemma isNumeral_write (n : Nat) : IsNumeral (write n) :=
  ⟨write_ne_nil n, fun _ hc => isDigit_of_mem_write hc⟩

lemma count?_eq_some_iff {ds : List Char} {n : UInt64} :
    count? ds = some n ↔ value ds = n.toNat := by
  rw [count?]
  constructor
  · intro h
    split at h
    · rename_i hlt
      rw [← Option.some.inj h, UInt64.toNat_ofNat_of_lt' hlt]
    · exact absurd h (by simp)
  · intro h
    rw [h, if_pos n.toNat_lt_size, UInt64.ofNat_toNat]

lemma count?_eq_none_iff {ds : List Char} : count? ds = none ↔ UInt64.size ≤ value ds := by
  rw [count?, ← Nat.not_lt]
  split <;> simp [*]

lemma le_valueFrom (n : Nat) (ds : List Char) : n ≤ valueFrom n ds := by
  induction ds generalizing n with
  | nil => exact le_rfl
  | cons d ds ih =>
    have hstep := ih (10 * n + digitValue d)
    rw [valueFrom, List.foldl_cons, ← valueFrom]
    omega

/-- Digits whose value fits into 64 bits are read as their value. -/
lemma scan_eq_ok {n : Nat} {ds : List Char} (hdigits : ∀ d ∈ ds, d.isDigit = true)
    (hlt : valueFrom n ds < UInt64.size) : scan n ds = .ok (UInt64.ofNat (valueFrom n ds)) := by
  induction ds generalizing n with
  | nil => rfl
  | cons d ds ih =>
    have hd := hdigits d List.mem_cons_self
    have hstep : valueFrom n (d :: ds) = valueFrom (10 * n + digitValue d) ds := rfl
    have hle := le_valueFrom (10 * n + digitValue d) ds
    rw [hstep] at hlt ⊢
    rw [scan, hd, if_pos (show 10 * n + digitValue d < UInt64.size by omega),
      ih (fun e he => hdigits e (List.mem_cons_of_mem d he)) hlt]
    rfl

/-- A text is scanned as a count exactly if it is digits with the value of that count. -/
lemma scan_eq_ok_iff {n : Nat} (hn : n < UInt64.size) {s : List Char} {count : UInt64} :
    scan n s = .ok count ↔ (∀ c ∈ s, c.isDigit = true) ∧ valueFrom n s = count.toNat := by
  constructor
  · intro h
    induction s generalizing n with
    | nil =>
      rw [← Except.ok.inj h, UInt64.toNat_ofNat_of_lt' hn]
      exact ⟨by simp, rfl⟩
    | cons c s ih =>
      rw [scan] at h
      split at h
      · exact absurd h (by simp)
      · rename_i hdigit
        split at h
        · rename_i hlt
          obtain ⟨hdigits, hvalue⟩ := ih hlt h
          exact ⟨List.forall_mem_cons.2 ⟨by simpa using hdigit, hdigits⟩, hvalue⟩
        · exact absurd h (by simp)
  · rintro ⟨hdigits, hvalue⟩
    rw [scan_eq_ok hdigits (by rw [hvalue]; exact count.toNat_lt_size), hvalue,
      UInt64.ofNat_toNat]

/-- Digits whose value does not fit into 64 bits are refused, however many follow the one with which
the value stops fitting. -/
lemma scan_of_size_le {n : Nat} {ds : List Char} (hn : n < UInt64.size)
    (hdigits : ∀ d ∈ ds, d.isDigit = true) (hle : UInt64.size ≤ valueFrom n ds) :
    scan n ds = .error .tooLarge := by
  induction ds generalizing n with
  | nil => exact absurd hn (Nat.not_lt.2 hle)
  | cons d ds ih =>
    have hd := hdigits d List.mem_cons_self
    rw [scan, hd]
    by_cases hlt : 10 * n + digitValue d < UInt64.size
    · rw [if_pos hlt, ih hlt (fun e he => hdigits e (List.mem_cons_of_mem d he)) hle]
      rfl
    · rw [if_neg hlt]
      rfl

lemma scan_write (n : UInt64) : scan 0 (write n.toNat) = .ok n :=
  (scan_eq_ok_iff (by decide)).2 ⟨fun _ hd => isDigit_of_mem_write hd, value_write n.toNat⟩

/-- A numeral without a sign is scanned as it stands. -/
lemma countOfField_eq_scan {c : Char} {rest : List Char} (h : c ≠ '+') :
    countOfField (c :: rest) = scan 0 (c :: rest) := by
  unfold countOfField
  split
  · rename_i heq
    exact absurd heq (by simp)
  · rename_i heq
    exact absurd (List.cons.inj heq).1 h
  · rename_i heq
    exact absurd (List.cons.inj heq).1 h
  · rfl

/-- A numeral has no sign. -/
lemma IsNumeral.countOfField_eq {s : List Char} (h : IsNumeral s) :
    countOfField s = scan 0 s := by
  obtain ⟨c, rest, rfl⟩ := List.exists_cons_of_ne_nil h.ne_nil
  refine countOfField_eq_scan ?_
  rintro rfl
  exact absurd (h.isDigit_of_mem '+' List.mem_cons_self) (by decide)

lemma countOfField_write (n : UInt64) : countOfField (write n.toNat) = .ok n := by
  rw [(isNumeral_write n.toNat).countOfField_eq, scan_write]

lemma countOfField_of_size_le {s : List Char} (h : IsNumeral s) (hle : UInt64.size ≤ value s) :
    countOfField s = .error .tooLarge := by
  rw [h.countOfField_eq, scan_of_size_le (by decide) h.isDigit_of_mem hle]

/-- What follows a plus sign is scanned, unless nothing follows. -/
lemma countOfField_plus {s : List Char} (h : s ≠ []) : countOfField ('+' :: s) = scan 0 s := by
  obtain ⟨c, rest, rfl⟩ := List.exists_cons_of_ne_nil h
  rfl

end Decimal

/-- A text does not go on with a digit at its start. -/
def StopsCount (rest : List Char) : Prop := ∀ c, rest.head? = some c → c.isDigit = false

/-- Every text goes on with no digit, or it starts with a numeral and does not go on with a digit
behind it. -/
lemma stopsCount_or_exists_numeral (s : List Char) : StopsCount s ∨
    ∃ digits rest, Decimal.IsNumeral digits ∧ s = digits ++ rest ∧ StopsCount rest := by
  obtain ⟨digits, rest, rfl, hdigits, hstop⟩ := Text.exists_run Char.isDigit s
  rcases eq_or_ne digits [] with rfl | hne
  · exact Or.inl hstop
  · exact Or.inr ⟨digits, rest, ⟨hne, hdigits⟩, rfl, hstop⟩

/-- A numeral whose value is a count is taken whole from a text that does not go on with a digit. -/
lemma takeCount_digits {digits rest : List Char} {n : UInt64} (hdigits : Decimal.IsNumeral digits)
    (hcount : Decimal.count? digits = some n) (hrest : StopsCount rest) :
    takeCount (digits ++ rest) = .ok (n, rest) := by
  have htake := Text.takeWhile_run hdigits.isDigit_of_mem hrest
  have hdrop := Text.dropWhile_run hdigits.isDigit_of_mem hrest
  have hempty : digits.isEmpty = false := List.isEmpty_eq_false_iff.2 hdigits.ne_nil
  simp only [takeCount, htake, hdrop, hempty, hcount]
  rfl

/-- Where no digit stands, digits are expected. -/
lemma takeCount_of_stopsCount {s : List Char} (h : StopsCount s) :
    takeCount s = .error (.expected .digits s) := by
  have htake : s.takeWhile Char.isDigit = [] := @Text.takeWhile_run _ [] s (by simp) h
  rw [takeCount, htake]
  rfl

/-- A numeral whose value is no count is refused with all that follows it. -/
lemma takeCount_of_size_le {digits rest : List Char} (hdigits : Decimal.IsNumeral digits)
    (hle : UInt64.size ≤ Decimal.value digits) (hrest : StopsCount rest) :
    takeCount (digits ++ rest) = .error (.tooLarge (digits ++ rest)) := by
  have htake := Text.takeWhile_run hdigits.isDigit_of_mem hrest
  have hempty : digits.isEmpty = false := List.isEmpty_eq_false_iff.2 hdigits.ne_nil
  simp only [takeCount, htake, hempty, Decimal.count?_eq_none_iff.2 hle]
  rfl

/-- What is taken as a count is the numeral at the start of a text. -/
lemma exists_digits_of_takeCount {s rest : List Char} {n : UInt64}
    (h : takeCount s = .ok (n, rest)) :
    ∃ digits, Decimal.IsNumeral digits ∧ Decimal.count? digits = some n ∧ s = digits ++ rest ∧
      StopsCount rest := by
  rcases stopsCount_or_exists_numeral s with hstop | ⟨digits, after, hdigits, rfl, hstop⟩
  · rw [takeCount_of_stopsCount hstop] at h
    exact absurd h (by simp)
  · cases hcount : Decimal.count? digits with
    | none =>
      rw [takeCount_of_size_le hdigits (Decimal.count?_eq_none_iff.1 hcount) hstop] at h
      exact absurd h (by simp)
    | some count =>
      rw [takeCount_digits hdigits hcount hstop, Except.ok.injEq, Prod.mk.injEq] at h
      obtain ⟨rfl, rfl⟩ := h
      exact ⟨digits, hdigits, hcount, rfl, hstop⟩

/-! ### Whole texts and cells -/

lemma stopsCount_nil : StopsCount [] := fun _ hc => absurd hc (by simp)

/-- A text is a count exactly if it is a numeral with the value of that count. -/
lemma readCount_eq_ok_iff {s : List Char} {n : UInt64} :
    readCount s = .ok n ↔ Decimal.IsNumeral s ∧ Decimal.value s = n.toNat := by
  constructor
  · intro h
    rw [readCount] at h
    split at h
    · exact absurd h (by simp)
    · rename_i count rest htaken
      obtain ⟨digits, hdigits, hcount, rfl, -⟩ := exists_digits_of_takeCount htaken
      split at h
      · rename_i hempty
        obtain rfl := Except.ok.inj h
        rw [List.isEmpty_iff.1 hempty, List.append_nil]
        exact ⟨hdigits, Decimal.count?_eq_some_iff.1 hcount⟩
      · exact absurd h (by simp)
  · rintro ⟨hnumeral, hvalue⟩
    have htaken := takeCount_digits hnumeral (Decimal.count?_eq_some_iff.2 hvalue) stopsCount_nil
    rw [List.append_nil] at htaken
    rw [readCount, htaken]
    rfl

/-- The numeral that is written for a count is read as that count. -/
lemma readCount_write (n : UInt64) : readCount (Decimal.write n.toNat) = .ok n :=
  readCount_eq_ok_iff.2 ⟨Decimal.isNumeral_write n.toNat, Decimal.value_write n.toNat⟩

lemma readCount_of_size_le {s : List Char} (h : Decimal.IsNumeral s)
    (hle : UInt64.size ≤ Decimal.value s) : readCount s = .error (.tooLarge s) := by
  have htaken := takeCount_of_size_le h hle stopsCount_nil
  rw [List.append_nil] at htaken
  rw [readCount, htaken]

/-- Where there is something to scan, scanning it is reading it as a count. -/
lemma scan_eq_ok_iff_readCount {s : List Char} (hne : s ≠ []) {n : UInt64} :
    Decimal.scan 0 s = .ok n ↔ readCount s = .ok n := by
  rw [Decimal.scan_eq_ok_iff (by decide), readCount_eq_ok_iff]
  exact and_congr_left' ⟨fun h => ⟨hne, h⟩, fun h => h.isDigit_of_mem⟩

/-- A cell is a count exactly if it is the text of one, perhaps behind a plus sign. -/
lemma countOfField_eq_ok_iff {s : List Char} {n : UInt64} :
    Decimal.countOfField s = .ok n ↔
      readCount s = .ok n ∨ ∃ w, s = '+' :: w ∧ readCount w = .ok n := by
  constructor
  · intro h
    cases s with
    | nil => exact absurd h (by simp [Decimal.countOfField])
    | cons c rest =>
      by_cases hplus : c = '+'
      · subst hplus
        have hne : rest ≠ [] := by
          rintro rfl
          exact absurd h (by simp [Decimal.countOfField])
        rw [Decimal.countOfField_plus hne, scan_eq_ok_iff_readCount hne] at h
        exact Or.inr ⟨rest, rfl, h⟩
      · rw [Decimal.countOfField_eq_scan hplus,
          scan_eq_ok_iff_readCount (List.cons_ne_nil c rest)] at h
        exact Or.inl h
  · rintro (h | ⟨w, rfl, h⟩)
    · have hnumeral := (readCount_eq_ok_iff.1 h).1
      rwa [hnumeral.countOfField_eq, scan_eq_ok_iff_readCount hnumeral.ne_nil]
    · have hne := (readCount_eq_ok_iff.1 h).1.ne_nil
      rwa [Decimal.countOfField_plus hne, scan_eq_ok_iff_readCount hne]

end NodeDemand
