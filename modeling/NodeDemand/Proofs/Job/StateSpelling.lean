/-
# Lists that spell states

A list spells states by their codes, in order, with a comma between any two of them.  Blanks may
stand around each code, and there may be more commas than are needed (`SpellsStates`).  A code can
stand in a list if it is not empty, has no comma and does not stand for all states (`Listable`).
Then the list is read as the states that it spells (`readStates_joinWith`).
-/
import NodeDemand.Proofs.Job.StateList
import NodeDemand.Proofs.Text.Lines

namespace NodeDemand

/-- The entry that stands for all states. -/
def IsAll (entry : List Char) : Prop := Text.asciiLowerCase entry = ['a', 'l', 'l']

instance (entry : List Char) : Decidable (IsAll entry) := inferInstanceAs (Decidable (_ = _))

/-- A list selects every state if it has no entry, or an entry that stands for all states. -/
lemma readStates_eq_none_iff (text : String) :
    readStates text = none ↔ stateEntries text = [] ∨ ∃ entry ∈ stateEntries text, IsAll entry := by
  simp [readStates, IsAll, or_iff_not_imp_left]

namespace JobState

/-- A state that can be spelled in a list: some text denotes it, and if it is not known its code is
an entry that does not stand for all states. -/
structure Listable (state : JobState) : Prop where
  denoted : ∃ text, ofText text = state
  code_ne_empty : ∀ code, state = unknown code → code ≠ ""
  no_comma : ∀ code, state = unknown code → ',' ∉ code.toList
  not_all : ∀ code, state = unknown code → ¬IsAll code.toList

namespace Listable

variable {state : JobState}

/-- What the codes of the known states and the code of the state have in common. -/
lemma code_of_known {p : List Char → Prop} (hknown : ∀ state ∈ known, p state.code.toList)
    (hunknown : ∀ code, state = unknown code → p code.toList) : p state.code.toList := by
  cases state with
  | unknown code => exact hunknown code rfl
  | _ => exact hknown _ (by decide)

lemma code_ne_nil (h : state.Listable) : state.code.toList ≠ [] :=
  code_of_known (p := (· ≠ [])) (by decide) fun code hcode =>
    mt String.toList_eq_nil_iff.1 (h.code_ne_empty code hcode)

lemma not_mem_code (h : state.Listable) : ',' ∉ state.code.toList :=
  code_of_known (p := (',' ∉ ·)) (by decide) h.no_comma

lemma not_isAll_code (h : state.Listable) : ¬IsAll state.code.toList :=
  code_of_known (p := (¬IsAll ·)) (by decide) h.not_all

end Listable

end JobState

/-- Parts between commas that spell states.  A part is the code of a state with blanks around it, or
blanks only. -/
inductive SpellsStates : List (List Char) → List JobState → Prop
  | nil : SpellsStates [] []
  | blank {part : List Char} {parts : List (List Char)} {states : List JobState}
      (hblank : ∀ c ∈ part, Text.isBlank c = true) (h : SpellsStates parts states) :
      SpellsStates (part :: parts) states
  | code {front back : List Char} {parts : List (List Char)} {state : JobState}
      {states : List JobState} (hfront : ∀ c ∈ front, Text.isBlank c = true)
      (hback : ∀ c ∈ back, Text.isBlank c = true) (h : SpellsStates parts states) :
      SpellsStates ((front ++ (state.code.toList ++ back)) :: parts) (state :: states)

namespace SpellsStates

variable {parts : List (List Char)} {states : List JobState}

lemma comma_not_mem_blanks {blanks : List Char} (h : ∀ c ∈ blanks, Text.isBlank c = true) :
    ',' ∉ blanks := fun hmem => absurd (h ',' hmem) (by decide)

lemma comma_not_mem (h : SpellsStates parts states) (hlist : ∀ state ∈ states, state.Listable) :
    ∀ part ∈ parts, ',' ∉ part := by
  induction h with
  | nil => simp
  | blank hblank _ ih =>
    rw [List.forall_mem_cons]
    exact ⟨comma_not_mem_blanks hblank, ih hlist⟩
  | code hfront hback _ ih =>
    obtain ⟨hstate, hstates⟩ := List.forall_mem_cons.1 hlist
    rw [List.forall_mem_cons, List.mem_append, List.mem_append, not_or, not_or]
    exact ⟨⟨comma_not_mem_blanks hfront, hstate.not_mem_code, comma_not_mem_blanks hback⟩,
      ih hstates⟩

/-- What is left of the parts without blanks are the codes. -/
lemma filter_trim (h : SpellsStates parts states) (hlist : ∀ state ∈ states, state.Listable) :
    (parts.map Text.trim).filter (!·.isEmpty) = states.map fun state => state.code.toList := by
  induction h with
  | nil => rfl
  | blank hblank _ ih =>
    rw [List.map_cons, Text.trim_eq_nil_iff.2 hblank, List.filter_cons_of_neg (by simp), ih hlist]
  | code hfront hback _ ih =>
    obtain ⟨hstate, hstates⟩ := List.forall_mem_cons.1 hlist
    rw [List.map_cons, Text.trim_blanks_append hfront, Text.trim_append_blanks _ hback,
      JobState.trim_code hstate.denoted, List.filter_cons_of_pos, ih hstates, List.map_cons]
    simpa using hstate.code_ne_nil

/-- The entries of the list are the codes. -/
lemma stateEntries_joinWith (h : SpellsStates parts states)
    (hlist : ∀ state ∈ states, state.Listable) :
    stateEntries (String.ofList (Text.joinWith [','] parts)) =
      states.map fun state => state.code.toList := by
  rw [← h.filter_trim hlist, stateEntries, String.toList_ofList]
  cases parts with
  | nil => rfl
  | cons part parts =>
    rw [Text.splitAt_joinWith (List.cons_ne_nil part parts) (h.comma_not_mem hlist)]

/-- A list that spells states is read as these states. -/
theorem readStates_joinWith (h : SpellsStates parts states)
    (hlist : ∀ state ∈ states, state.Listable) (hne : states ≠ []) :
    readStates (String.ofList (Text.joinWith [','] parts)) = some states := by
  have hentries := h.stateEntries_joinWith hlist
  have hsome : readStates (String.ofList (Text.joinWith [','] parts)) ≠ none := by
    rw [ne_eq, readStates_eq_none_iff, hentries, not_or]
    refine ⟨mt List.map_eq_nil_iff.1 hne, ?_⟩
    rintro ⟨entry, hentry, hall⟩
    obtain ⟨state, hstate, rfl⟩ := List.mem_map.1 hentry
    exact (hlist state hstate).not_isAll_code hall
  obtain ⟨read, hread⟩ := Option.ne_none_iff_exists'.1 hsome
  have hcodes : ∀ state ∈ states, JobState.ofText (String.ofList state.code.toList) = state := by
    intro state hstate
    rw [String.ofList_toList, JobState.ofText_code (hlist state hstate).denoted]
  rw [hread, eq_map_of_readStates_eq_some hread, hentries, List.map_map, Function.comp_def,
    List.map_congr_left hcodes, List.map_id']

end SpellsStates

end NodeDemand
