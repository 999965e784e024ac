/-
# Trimming

Blanks at the ends of a text do not matter for what trimming leaves (`trim_append_blanks`), and
what is left has no blank at its ends (`trim_trim`).
-/
import NodeDemand.Text.Blank
import Mathlib.Data.List.TakeWhile

namespace NodeDemand.Text

lemma isBlank_space : isBlank ' ' = true := by decide

lemma trimEnd_append_blanks (s : List Char) {blanks : List Char}
    (h : ∀ c ∈ blanks, isBlank c = true) : trimEnd (s ++ blanks) = trimEnd s := by
  have hdrop : blanks.reverse.dropWhile isBlank = [] :=
    List.dropWhile_eq_nil_iff.2 fun c hc => h c (List.mem_reverse.1 hc)
  rw [trimEnd, trimEnd, List.reverse_append, List.dropWhile_append, hdrop]
  rfl

/-- Blanks after a text do not matter for trimming. -/
lemma trim_append_blanks (s : List Char) {blanks : List Char}
    (h : ∀ c ∈ blanks, isBlank c = true) : trim (s ++ blanks) = trim s := by
  rw [trim, trimStart, List.dropWhile_append]
  -- blanks after a text of blanks are dropped from the start, else they stand at the end
  split
  · rename_i hempty
    have hnil : s.dropWhile isBlank = [] := List.isEmpty_iff.1 hempty
    rw [List.dropWhile_eq_nil_iff.2 h, trim, trimStart, hnil]
  · rw [trimEnd_append_blanks _ h]
    rfl

/-- Blanks before a text do not matter for trimming. -/
lemma trim_blanks_append {blanks : List Char} (h : ∀ c ∈ blanks, isBlank c = true)
    (s : List Char) : trim (blanks ++ s) = trim s := by
  rw [trim, trimStart, List.dropWhile_append, List.dropWhile_eq_nil_iff.2 h]
  rfl

/-- Trimming adds nothing. -/
lemma mem_of_mem_trim {s : List Char} {c : Char} (h : c ∈ trim s) : c ∈ s := by
  rw [trim, trimEnd, List.mem_reverse] at h
  have hstart := List.mem_reverse.1 ((List.dropWhile_sublist _).mem h)
  exact (List.dropWhile_sublist _).mem hstart

/-! ### Texts without blanks at their ends -/

/-- The text before the blanks at its end. -/
lemma trimEnd_append_takeWhile (s : List Char) :
    trimEnd s ++ (s.reverse.takeWhile isBlank).reverse = s := by
  rw [trimEnd, ← List.reverse_append, List.takeWhile_append_dropWhile, List.reverse_reverse]

lemma trimStart_eq_self {s : List Char} (h : ∀ c, s.head? = some c → isBlank c = false) :
    trimStart s = s := by
  cases s with
  | nil => rfl
  | cons c rest => rw [trimStart, List.dropWhile_cons_of_neg (by simp [h c rfl])]

lemma trimEnd_eq_self {s : List Char} (h : ∀ c, s.getLast? = some c → isBlank c = false) :
    trimEnd s = s := by
  have hstart := @trimStart_eq_self s.reverse (by simpa [List.head?_reverse] using h)
  rw [trimStart] at hstart
  rw [trimEnd, hstart, List.reverse_reverse]

/-- A text whose first and last characters are not blank is left as it is. -/
lemma trim_eq_self {s : List Char} (hfirst : ∀ c, s.head? = some c → isBlank c = false)
    (hlast : ∀ c, s.getLast? = some c → isBlank c = false) : trim s = s := by
  rw [trim, trimStart_eq_self hfirst, trimEnd_eq_self hlast]

lemma isBlank_head?_trimStart (s : List Char) (c : Char) (h : (trimStart s).head? = some c) :
    isBlank c = false := by
  have hnot := List.head?_dropWhile_not isBlank s
  rw [trimStart] at h
  rw [h] at hnot
  simpa using hnot

lemma isBlank_getLast?_trimEnd (s : List Char) (c : Char) (h : (trimEnd s).getLast? = some c) :
    isBlank c = false := by
  rw [trimEnd, List.getLast?_reverse] at h
  exact isBlank_head?_trimStart s.reverse c h

/-- The first character of what is left is the first one that is not blank. -/
lemma head?_trimEnd_trimStart (s : List Char) (c : Char) (h : (trim s).head? = some c) :
    isBlank c = false := by
  refine isBlank_head?_trimStart s c ?_
  rw [← trimEnd_append_takeWhile (trimStart s), List.head?_append]
  rw [trim] at h
  rw [h]
  rfl

lemma trim_trim (s : List Char) : trim (trim s) = trim s :=
  trim_eq_self (head?_trimEnd_trimStart s) (isBlank_getLast?_trimEnd (trimStart s))

/-- The last character of a text that trimming leaves as it is is not blank. -/
lemma isBlank_getLast? {s : List Char} (h : trim s = s) (c : Char) (hc : s.getLast? = some c) :
    isBlank c = false := by
  rw [← h] at hc
  exact isBlank_getLast?_trimEnd (trimStart s) c hc

lemma trim_eq_nil_iff {s : List Char} : trim s = [] ↔ ∀ c ∈ s, isBlank c = true := by
  constructor
  · intro h
    have hblank : ∀ c ∈ trimStart s, isBlank c = true := by
      rw [trim, trimEnd, List.reverse_eq_nil_iff, List.dropWhile_eq_nil_iff] at h
      exact fun c hc => h c (List.mem_reverse.2 hc)
    have hnil : trimStart s = [] := by
      cases hs : trimStart s with
      | nil => rfl
      | cons d rest =>
        have hfirst := isBlank_head?_trimStart s d (by rw [hs]; rfl)
        rw [hblank d (by rw [hs]; exact List.mem_cons_self)] at hfirst
        exact absurd hfirst (by simp)
    exact List.dropWhile_eq_nil_iff.1 hnil
  · intro h
    rw [trim, trimStart, List.dropWhile_eq_nil_iff.2 h]
    rfl

end NodeDemand.Text
