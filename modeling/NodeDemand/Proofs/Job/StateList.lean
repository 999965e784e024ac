/-
# What a list of states selects

A list selects a state if it selects every state, or if one of its entries denotes the state.  An
entry that denotes a known state is read without regard to case, and so is the entry that stands
for all states (`selectsState_toUpper_iff`).  A state that is not known is selected by its code as
it stands (`selectsState_unknown_iff`), so for these states it matters how a list is written
(`selectsState_toUpper_same_iff`).
-/
import NodeDemand.Proofs.Job.State
import NodeDemand.Proofs.Text.UpperCase

namespace NodeDemand

/-- A list of states selects a state. -/
def SelectsState (text : String) (state : JobState) : Prop :=
  readStates text = none ∨ ∃ entry ∈ stateEntries text, JobState.ofText (String.ofList entry) = state

instance (text : String) (state : JobState) : Decidable (SelectsState text state) :=
  inferInstanceAs (Decidable (_ ∨ _))

namespace JobState

/-! ### Texts without blanks at their ends -/

section Word

variable {word : List Char} (hword : Text.trim word = word)
include hword

lemma ofText_word :
    ofText (String.ofList word) =
      (ofUpperCase? (Text.upperCase word)).getD (unknown (String.ofList word)) := by
  simp only [ofText, String.toList_ofList, hword]

/-- A text denotes a state that is not known if no known state has the text as a code; then the
text is the code of the state. -/
lemma ofText_word_eq_unknown_iff {code : String} :
    ofText (String.ofList word) = unknown code ↔
      ofUpperCase? (Text.upperCase word) = none ∧ word = code.toList := by
  rw [ofText_word hword]
  cases hknown : ofUpperCase? (Text.upperCase word) with
  | none =>
    simp only [Option.getD_none, unknown.injEq, true_and]
    constructor
    · rintro rfl
      exact String.toList_ofList.symm
    · rintro rfl
      exact String.ofList_toList
  | some state =>
    have hne : state ≠ unknown code := by
      rintro rfl
      exact unknown_not_mem_known code (ofUpperCase?_eq_some_iff.1 hknown).1
    simpa using hne

/-- Which known state a text denotes does not depend on the case of its letters. -/
lemma ofText_word_toUpper_iff {state : JobState} (hstate : ∀ code, state ≠ unknown code) :
    ofText (String.ofList (word.map Char.toUpper)) = state ↔
      ofText (String.ofList word) = state := by
  have hupper : Text.trim (word.map Char.toUpper) = word.map Char.toUpper := by
    rw [Text.trim_map_toUpper, hword]
  rw [ofText_word hupper, ofText_word hword, Text.upperCase_map_toUpper]
  cases ofUpperCase? (Text.upperCase word) with
  | some other => rfl
  | none => exact iff_of_false (hstate _).symm (hstate _).symm

end Word

/-- The code of a state that is denoted but not known is a code of no known state. -/
lemma ofUpperCase?_code_eq_none {code : String} (h : ∃ text, ofText text = unknown code) :
    ofUpperCase? (Text.upperCase code.toList) = none := by
  obtain ⟨text, htext⟩ := h
  have htrim := Text.trim_trim text.toList
  have hword : ofText (String.ofList (Text.trim text.toList)) = unknown code := by
    rw [ofText_word htrim, ← htext]
    rfl
  obtain ⟨hnone, hcode⟩ := (ofText_word_eq_unknown_iff htrim).1 hword
  rwa [← hcode]

end JobState

/-! ### Entries -/

lemma trim_of_mem_stateEntries {text : String} {entry : List Char}
    (h : entry ∈ stateEntries text) : Text.trim entry = entry := by
  obtain ⟨part, -, rfl⟩ := List.mem_map.1 (List.mem_filter.1 h).1
  exact Text.trim_trim part

/-- The entries of a list in upper case are its entries in upper case. -/
lemma stateEntries_toUpper (text : String) :
    stateEntries text.toUpper = (stateEntries text).map (List.map Char.toUpper) := by
  have hparts : Text.splitAt ',' text.toUpper.toList =
      (Text.splitAt ',' text.toList).map (List.map Char.toUpper) := by
    rw [String.toUpper, String.toList_map, Text.splitAt_map_toUpper (by decide) (by decide)]
  have htrim : Text.trim ∘ List.map Char.toUpper = List.map Char.toUpper ∘ Text.trim :=
    funext Text.trim_map_toUpper
  have hempty : (fun entry : List Char => !(entry.map Char.toUpper).isEmpty) =
      fun entry => !entry.isEmpty := by
    funext entry
    cases entry <;> rfl
  rw [stateEntries, hparts, List.map_map, htrim, ← List.map_map, List.filter_map, Function.comp_def,
    hempty]
  rfl

/-- Whether a list selects every state does not depend on the case of its letters. -/
lemma readStates_toUpper_eq_none_iff (text : String) :
    readStates text.toUpper = none ↔ readStates text = none := by
  have hall : ((stateEntries text).map (List.map Char.toUpper)).any
        (Text.asciiLowerCase · == ['a', 'l', 'l']) =
      (stateEntries text).any (Text.asciiLowerCase · == ['a', 'l', 'l']) := by
    simp only [List.any_map, Function.comp_def, Text.asciiLowerCase_map_toUpper]
  simp only [readStates, stateEntries_toUpper, hall, List.isEmpty_map]
  split <;> simp

/-! ### Selected states -/

/-- A list that does not select every state is read entry by entry. -/
lemma eq_map_of_readStates_eq_some {text : String} {states : List JobState}
    (h : readStates text = some states) :
    states = (stateEntries text).map fun entry => JobState.ofText (String.ofList entry) := by
  simp only [readStates] at h
  split at h
  · exact absurd h (by simp)
  · exact (Option.some.inj h).symm

/-- A list that does not select every state is read as the states that it selects. -/
lemma mem_of_readStates_eq_some {text : String} {states : List JobState}
    (h : readStates text = some states) (state : JobState) :
    state ∈ states ↔ SelectsState text state := by
  rw [SelectsState, h, eq_map_of_readStates_eq_some h, List.mem_map]
  simp

/-- A known state is selected whatever the case of the letters of the list. -/
lemma selectsState_toUpper_iff (text : String) {state : JobState}
    (h : ∀ code, state ≠ .unknown code) :
    SelectsState text.toUpper state ↔ SelectsState text state := by
  rw [SelectsState, SelectsState, readStates_toUpper_eq_none_iff, stateEntries_toUpper]
  refine or_congr_right ?_
  simp only [List.mem_map, exists_exists_and_eq_and]
  exact exists_congr fun entry => and_congr_right fun hentry =>
    JobState.ofText_word_toUpper_iff (trim_of_mem_stateEntries hentry) h

/-- A state that is not known is selected by its code, letter by letter. -/
lemma selectsState_unknown_iff (text : String) {code : String}
    (h : ∃ text, JobState.ofText text = .unknown code) :
    SelectsState text (.unknown code) ↔
      readStates text = none ∨ code.toList ∈ stateEntries text := by
  refine or_congr_right ⟨?_, fun hmem => ⟨code.toList, hmem, ?_⟩⟩
  · rintro ⟨entry, hentry, hdenotes⟩
    rw [JobState.ofText_word_eq_unknown_iff (trim_of_mem_stateEntries hentry)] at hdenotes
    rwa [← hdenotes.2]
  · rw [JobState.ofText_word_eq_unknown_iff (trim_of_mem_stateEntries hmem)]
    exact ⟨JobState.ofUpperCase?_code_eq_none h, rfl⟩

/-- A list that does not select every state and the list in upper case disagree on a state exactly
if the state is not known and its code is an entry of only one of them. -/
lemma selectsState_toUpper_same_iff {states : String} {state : JobState}
    (h : ∃ text, JobState.ofText text = state) :
    (SelectsState states.toUpper state ↔ SelectsState states state) ↔
      readStates states = none ∨ ∀ code, state = .unknown code →
        (code.toList ∈ (stateEntries states).map (List.map Char.toUpper) ↔
          code.toList ∈ stateEntries states) := by
  by_cases hknown : ∃ code, state = .unknown code
  · obtain ⟨code, rfl⟩ := hknown
    rw [selectsState_unknown_iff _ h, selectsState_unknown_iff _ h,
      readStates_toUpper_eq_none_iff, stateEntries_toUpper]
    by_cases hall : readStates states = none <;> simp [hall]
  · have hne : ∀ code, state ≠ .unknown code := fun code heq => hknown ⟨code, heq⟩
    exact iff_of_true (selectsState_toUpper_iff states hne)
      (Or.inr fun code heq => absurd heq (hne code))

end NodeDemand
