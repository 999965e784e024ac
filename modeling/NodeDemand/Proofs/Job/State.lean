/-
# State codes read back

A text denotes a known state if it is one of the two codes of the state, without the blanks around
it and in upper case.  Any other text denotes a state that is not known, with the text as its code
(`ofText_eq_iff`).  The upper case may be any that agrees with `Text.upperCase` in ASCII, as the
known codes are texts in ASCII.

The code of a known state is read as that state, and the code of a state that is not known is the
text that was read, without the blanks around it.  So a state that was read from some text is read
again from its code (`ofText_code`, `ofText_stable`).
-/
import NodeDemand.Job.State
import NodeDemand.Proofs.Text.UpperCase

namespace NodeDemand.JobState

/-! ### Codes of known states -/

lemma hasCode_iff {state : JobState} {word : List Char} :
    state.hasCode word = true ↔ word = state.code.toList ∨ word = state.longCode.toList := by
  rw [hasCode, Bool.or_eq_true, beq_iff_eq, beq_iff_eq]

/-- No two known states share a code. -/
lemma ofUpperCase?_code : ∀ state ∈ known,
    ofUpperCase? state.code.toList = some state ∧
      ofUpperCase? state.longCode.toList = some state := by
  decide +kernel

lemma ofUpperCase?_eq_some_iff {word : List Char} {state : JobState} :
    ofUpperCase? word = some state ↔ state ∈ known ∧ state.hasCode word = true := by
  constructor
  · intro h
    have hcode : state.hasCode word = true :=
      List.find?_some (p := fun state : JobState => state.hasCode word) h
    exact ⟨List.mem_of_find?_eq_some h, hcode⟩
  · rintro ⟨hmem, hcode⟩
    rcases hasCode_iff.1 hcode with rfl | rfl
    · exact (ofUpperCase?_code state hmem).1
    · exact (ofUpperCase?_code state hmem).2

lemma ofUpperCase?_eq_none_iff {word : List Char} :
    ofUpperCase? word = none ↔ ∀ state ∈ known, ¬state.hasCode word = true :=
  List.find?_eq_none

lemma unknown_not_mem_known (code : String) : unknown code ∉ known := by
  simp [known]

lemma ascii_code : ∀ state ∈ known,
    (∀ d ∈ state.code.toList, d.toNat < 0x80) ∧ ∀ d ∈ state.longCode.toList, d.toNat < 0x80 := by
  simp [known, code, longCode]

/-- For the codes of the known states it does not matter what the upper cases beyond ASCII are. -/
lemma hasCode_flatMap_iff {upper : Char → List Char} (h : Text.AgreesInAscii upper)
    {state : JobState} (hmem : state ∈ known) (word : List Char) :
    state.hasCode (word.flatMap upper) = true ↔ state.hasCode (Text.upperCase word) = true := by
  obtain ⟨hcode, hlong⟩ := ascii_code state hmem
  rw [hasCode_iff, hasCode_iff, h.flatMap_eq_iff hcode, h.flatMap_eq_iff hlong]

/-! ### What a text denotes -/

/-- A text denotes a state: in upper case, and without the blanks around it, it is a code of the
known state, or it is a code of no known state and is itself the code of the state. -/
inductive Denotes (upper : Char → List Char) (text : String) : JobState → Prop
  | known {state : JobState} (hmem : state ∈ known)
      (hcode : (Text.trim text.toList).flatMap upper = state.code.toList ∨
        (Text.trim text.toList).flatMap upper = state.longCode.toList) : Denotes upper text state
  | unknown (hnone : ∀ state ∈ JobState.known,
        (Text.trim text.toList).flatMap upper ≠ state.code.toList ∧
          (Text.trim text.toList).flatMap upper ≠ state.longCode.toList) :
      Denotes upper text (unknown (String.ofList (Text.trim text.toList)))

/-- A text is read as the state that it denotes. -/
theorem ofText_eq_iff {upper : Char → List Char} (h : Text.AgreesInAscii upper) {text : String}
    {state : JobState} : ofText text = state ↔ Denotes upper text state := by
  constructor
  · rintro rfl
    simp only [ofText]
    cases hfound : ofUpperCase? (Text.upperCase (Text.trim text.toList)) with
    | some state =>
      obtain ⟨hmem, hcode⟩ := ofUpperCase?_eq_some_iff.1 hfound
      rw [← hasCode_flatMap_iff h hmem] at hcode
      exact .known hmem (hasCode_iff.1 hcode)
    | none =>
      refine .unknown fun state hmem => ?_
      have hnot := ofUpperCase?_eq_none_iff.1 hfound state hmem
      rwa [← hasCode_flatMap_iff h hmem, hasCode_iff, not_or] at hnot
  · intro hdenotes
    cases hdenotes with
    | known hmem hcode =>
      rw [← hasCode_iff, hasCode_flatMap_iff h hmem] at hcode
      rw [ofText, ofUpperCase?_eq_some_iff.2 ⟨hmem, hcode⟩, Option.getD_some]
    | unknown hnone =>
      have hfound : ofUpperCase? (Text.upperCase (Text.trim text.toList)) = none := by
        refine ofUpperCase?_eq_none_iff.2 fun state hmem => ?_
        rw [← hasCode_flatMap_iff h hmem, hasCode_iff, not_or]
        exact hnone state hmem
      rw [ofText, hfound, Option.getD_none]

/-- A text denotes a known state, or the state with the text as its code. -/
lemma ofText_cases (text : String) :
    ofText text ∈ known ∨ ofText text = unknown (String.ofList (Text.trim text.toList)) := by
  have hdenotes : Denotes Text.upperCaseChar text (ofText text) :=
    (ofText_eq_iff Text.agreesInAscii_upperCaseChar).1 rfl
  generalize ofText text = state at hdenotes ⊢
  cases hdenotes with
  | known hmem _ => exact Or.inl hmem
  | unknown _ => exact Or.inr rfl

/-- Blanks around a text do not matter for what it denotes. -/
lemma ofText_blanks_append {front back : String}
    (hfront : ∀ c ∈ front.toList, Text.isBlank c = true)
    (hback : ∀ c ∈ back.toList, Text.isBlank c = true) (text : String) :
    ofText (front ++ text ++ back) = ofText text := by
  simp only [ofText, String.toList_append, Text.trim_append_blanks _ hback,
    Text.trim_blanks_append hfront]

/-! ### Codes of states that were read -/

/-- The code of a state that a text can denote has no blanks at its ends. -/
lemma trim_code {state : JobState} (h : ∃ text, ofText text = state) :
    Text.trim state.code.toList = state.code.toList := by
  obtain ⟨text, rfl⟩ := h
  have hknown : ∀ state ∈ known, Text.trim state.code.toList = state.code.toList := by
    decide +kernel
  rcases ofText_cases text with hmem | hunknown
  · exact hknown _ hmem
  · rw [hunknown, code, String.toList_ofList, Text.trim_trim]

lemma ofText_code_of_mem_known : ∀ state ∈ known, ofText state.code = state := by
  decide +kernel

/-- A state that a text can denote is denoted by its code. -/
lemma ofText_code {state : JobState} (h : ∃ text, ofText text = state) :
    ofText state.code = state := by
  obtain ⟨text, rfl⟩ := h
  rcases ofText_cases text with hmem | hunknown
  · exact ofText_code_of_mem_known _ hmem
  · -- the text without its blanks denotes what the text denotes
    rw [hunknown, code, ← hunknown]
    simp only [ofText, String.toList_ofList, Text.trim_trim]

lemma isPending_iff {state : JobState} : state.isPending = true ↔ state = pending := by
  rw [isPending, beq_iff_eq]

/-- **State codes are stable.**  A state that was read is read again from its code, and blanks
around a text do not matter.  A text is read as the known state of which it is a code, in upper
case, and else as a state with the text as its code.  So it denotes the pending state only by one of
the two codes of that state, and a state that is not known is not pending. -/
theorem ofText_stable (text : String) :
    ofText (ofText text).code = ofText text ∧
      (∀ front back : String, (∀ c ∈ front.toList, Text.isBlank c = true) →
        (∀ c ∈ back.toList, Text.isBlank c = true) →
          ofText (front ++ text ++ back) = ofText text) ∧
      (∀ upper : Char → List Char, Text.AgreesInAscii upper →
        (∀ state, ofText text = state ↔ Denotes upper text state) ∧
        ((ofText text).isPending = true ↔
          (Text.trim text.toList).flatMap upper = "PD".toList ∨
            (Text.trim text.toList).flatMap upper = "PENDING".toList)) ∧
      ∀ code, ofText text = unknown code →
        code.toList = Text.trim text.toList ∧ (ofText text).isPending = false := by
  refine ⟨ofText_code ⟨text, rfl⟩, fun front back hfront hback =>
    ofText_blanks_append hfront hback text, ?_, ?_⟩
  · intro upper hupper
    refine ⟨fun state => ofText_eq_iff hupper, ?_⟩
    rw [isPending_iff, ofText_eq_iff hupper]
    constructor
    · intro hdenotes
      cases hdenotes with
      | known _ hcode => exact hcode
    · have hmem : pending ∈ known := by decide
      exact fun hcode => .known hmem hcode
  · intro code hcode
    rw [hcode]
    rcases ofText_cases text with hmem | hunknown
    · rw [hcode] at hmem
      exact absurd hmem (unknown_not_mem_known code)
    · rw [hcode] at hunknown
      rw [unknown.inj hunknown, String.toList_ofList]
      exact ⟨rfl, rfl⟩

/-- Upper cases that are given to an accented letter, too. -/
def accentedUpper (c : Char) : List Char := if c = 'é' then ['É'] else Text.upperCaseChar c

lemma agreesInAscii_accentedUpper : Text.AgreesInAscii accentedUpper := by
  intro c word hword
  unfold accentedUpper
  split
  · rename_i hc
    rw [hc, show Text.upperCaseChar 'é' = ['é'] by decide]
    -- neither of the two is in ASCII
    constructor
    · rintro rfl
      exact absurd (hword 'É' (by decide)) (by decide)
    · rintro rfl
      exact absurd (hword 'é' (by decide)) (by decide)
  · exact Iff.rfl

/-- The long code of the pending state, with a dotless letter, and a code that is not known. -/
theorem ofText_stable_dotless :
    Text.AgreesInAscii accentedUpper ∧
      (Text.trim " pendıng\t".toList).flatMap accentedUpper = "PENDING".toList ∧
      (ofText " pendıng\t").isPending = true ∧ ofText (ofText " pendıng\t").code = pending ∧
      ofText " gelée" = unknown "gelée" ∧ (ofText " gelée").isPending = false := by
  have hcode : (Text.trim " pendıng\t".toList).flatMap accentedUpper = "PENDING".toList := by
    decide +kernel
  have hpending : (ofText " pendıng\t").isPending = true :=
    ((ofText_stable " pendıng\t").2.2.1 accentedUpper agreesInAscii_accentedUpper).2.2
      (Or.inr hcode)
  have hunknown : ofText " gelée" = unknown "gelée" := by decide +kernel
  refine ⟨agreesInAscii_accentedUpper, hcode, hpending, ?_, hunknown, ?_⟩
  · rw [(ofText_stable " pendıng\t").1]
    exact isPending_iff.1 hpending
  · exact ((ofText_stable " gelée").2.2.2 "gelée" hunknown).2

end NodeDemand.JobState
