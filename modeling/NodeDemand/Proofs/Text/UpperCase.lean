/-
# Texts with their ASCII letters in upper case

`Char.toUpper` changes the 26 lower-case letters of ASCII and no other character, so what is true
of these letters by inspection carries over to texts: upper case does not matter for the upper
case of codes (`upperCase_map_toUpper`) nor for comparing without regard to case
(`asciiLowerCase_map_toUpper`), and it commutes with trimming and splitting.

Characters beyond ASCII have upper cases that `upperCase` does not give them.  For comparing with a
text in ASCII this makes no difference, as long as the same characters have upper cases in ASCII
(`AgreesInAscii.flatMap_eq_iff`).
-/
import NodeDemand.Proofs.Text.Trim
import NodeDemand.Text.Lines
import NodeDemand.Text.UpperCase
import Mathlib.Tactic.IntervalCases

namespace NodeDemand.Text

/-! ### Characters -/

/-- The letters of ASCII in lower case. -/
def lowerLetters : List Char := "abcdefghijklmnopqrstuvwxyz".toList

/-- Only the lower-case letters of ASCII have another character as their upper case. -/
lemma toUpper_eq_self_or_mem (c : Char) : c.toUpper = c ∨ c ∈ lowerLetters := by
  by_cases h : 'a'.val ≤ c.val ∧ c.val ≤ 'z'.val
  · right
    have hlow : 97 ≤ c.toNat := UInt32.le_iff_toNat_le.1 h.1
    have hhigh : c.toNat ≤ 122 := UInt32.le_iff_toNat_le.1 h.2
    rw [← Char.ofNat_toNat c]
    interval_cases c.toNat <;> decide
  · left
    exact dif_neg h

/-- A function that does not tell the lower-case letters of ASCII from their upper case tells no
character from its upper case. -/
lemma apply_toUpper_of_letters {α : Type} [DecidableEq α] {f : Char → α}
    (h : lowerLetters.all fun c => f c.toUpper = f c) (c : Char) : f c.toUpper = f c := by
  rcases toUpper_eq_self_or_mem c with hself | hmem
  · rw [hself]
  · exact of_decide_eq_true (List.all_eq_true.1 h c hmem)

lemma isBlank_toUpper (c : Char) : isBlank c.toUpper = isBlank c :=
  apply_toUpper_of_letters (by decide) c

lemma toLower_toUpper (c : Char) : c.toUpper.toLower = c.toLower :=
  apply_toUpper_of_letters (by decide) c

lemma upperCaseChar_toUpper (c : Char) : upperCaseChar c.toUpper = upperCaseChar c :=
  apply_toUpper_of_letters (by decide) c

/-- A character that is no letter is the upper case of itself only. -/
lemma toUpper_eq_iff {c d : Char} (hlower : d ∉ lowerLetters)
    (hupper : d ∉ lowerLetters.map Char.toUpper) : c.toUpper = d ↔ c = d := by
  rcases toUpper_eq_self_or_mem c with h | h
  · rw [h]
  · constructor
    · intro heq
      exact absurd (List.mem_map.2 ⟨c, h, heq⟩) hupper
    · rintro rfl
      exact absurd h hlower

/-- A way to give characters an upper case agrees with `upperCaseChar` in ASCII: the two give a
character the same text in ASCII, or neither gives it one. -/
def AgreesInAscii (upper : Char → List Char) : Prop :=
  ∀ (c : Char) (word : List Char), (∀ d ∈ word, d.toNat < 0x80) →
    (upper c = word ↔ upperCaseChar c = word)

lemma agreesInAscii_upperCaseChar : AgreesInAscii upperCaseChar := fun _ _ _ => Iff.rfl

/-! ### Texts -/

/-- A text in ASCII is the upper case of the same texts, whatever upper cases there are beyond
ASCII. -/
lemma AgreesInAscii.flatMap_eq_iff {upper : Char → List Char} (h : AgreesInAscii upper)
    {word : List Char} (hword : ∀ d ∈ word, d.toNat < 0x80) (s : List Char) :
    s.flatMap upper = word ↔ upperCase s = word := by
  induction s generalizing word with
  | nil => rfl
  | cons c rest ih =>
    rw [upperCase, List.flatMap_cons, List.flatMap_cons]
    -- either way the text splits into an upper case of the character and one of the rest
    constructor
    · rintro rfl
      obtain ⟨hchar, hrest⟩ := List.forall_mem_append.1 hword
      exact congrArg₂ (· ++ ·) ((h c _ hchar).1 rfl) ((ih hrest).1 rfl)
    · rintro rfl
      obtain ⟨hchar, hrest⟩ := List.forall_mem_append.1 hword
      exact congrArg₂ (· ++ ·) ((h c _ hchar).2 rfl) ((ih hrest).2 rfl)

lemma upperCase_map_toUpper (s : List Char) : upperCase (s.map Char.toUpper) = upperCase s := by
  rw [upperCase, List.flatMap_map]
  exact congrArg (List.flatMap · s) (funext upperCaseChar_toUpper)

lemma asciiLowerCase_map_toUpper (s : List Char) :
    asciiLowerCase (s.map Char.toUpper) = asciiLowerCase s := by
  rw [asciiLowerCase, List.map_map]
  exact List.map_congr_left fun c _ => toLower_toUpper c

lemma trimStart_map_toUpper (s : List Char) :
    trimStart (s.map Char.toUpper) = (trimStart s).map Char.toUpper := by
  rw [trimStart, List.dropWhile_map]
  exact congrArg (fun p => (s.dropWhile p).map Char.toUpper) (funext isBlank_toUpper)

lemma trim_map_toUpper (s : List Char) :
    trim (s.map Char.toUpper) = (trim s).map Char.toUpper := by
  rw [trim, trimStart_map_toUpper, trimEnd, ← List.map_reverse, ← trimStart,
    trimStart_map_toUpper, ← List.map_reverse]
  rfl

lemma splitAt_map_toUpper {sep : Char} (hlower : sep ∉ lowerLetters)
    (hupper : sep ∉ lowerLetters.map Char.toUpper) (s : List Char) :
    splitAt sep (s.map Char.toUpper) = (splitAt sep s).map (List.map Char.toUpper) := by
  induction s with
  | nil => rfl
  | cons c rest ih =>
    rw [List.map_cons, splitAt, splitAt, ih]
    have hiff : c.toUpper = sep ↔ c = sep := toUpper_eq_iff hlower hupper
    by_cases h : c = sep
    · rw [if_pos h, if_pos (hiff.2 h)]
      rfl
    · rw [if_neg h, if_neg (mt hiff.1 h)]
      cases splitAt sep rest <;> rfl

end NodeDemand.Text
