/-
# Blanks and line ends of a table

`read_respaced` says that a table is read alike however its lines are spaced: blank lines may stand
between its lines, blanks at the end of a line, a carriage return before each line feed, and a line
feed at the end of the text or not.

What a text holds besides its spacing is its content, the lines that are not blank without the
blanks at their ends.  No change of the spacing touches the content (`Respaced.content_eq`), and the
reader depends on nothing else (`read_eq_readGrid`): blanks that are removed at the end of a line
were in cells that are empty without them, wherever the line was cut.
-/
import NodeDemand.Proofs.Table.Layout
import Mathlib.Logic.Relation

namespace NodeDemand.Table

/-! ### Changes of the spacing -/

/-- The text with a carriage return before every line feed. -/
def withReturns (text : List Char) : List Char :=
  text.flatMap fun c => if c = '\n' then ['\r', '\n'] else [c]

/-- The second text is the first one with more space in one respect. -/
inductive Respaced : List Char → List Char → Prop
  /-- A blank line stands before a line or behind the last one. -/
  | blankLine (front blanks back : List Char) (hfront : front = [] ∨ front.getLast? = some '\n')
      (hblanks : ∀ c ∈ blanks, Text.isBlank c = true) :
      Respaced (front ++ back) (front ++ (blanks ++ '\n' :: back))
  /-- Blanks stand at the end of a line. -/
  | trailing (front blanks back : List Char) (hblanks : ∀ c ∈ blanks, Text.isBlank c = true)
      (hfeed : '\n' ∉ blanks) (hback : back = [] ∨ back.head? = some '\n') :
      Respaced (front ++ back) (front ++ (blanks ++ back))
  /-- Every line feed has a carriage return before it. -/
  | returns (text : List Char) : Respaced text (withReturns text)
  /-- A line feed ends the text. -/
  | lastFeed (text : List Char) : Respaced text (text ++ ['\n'])

/-! ### The content of a text -/

/-- What is written on a line that is not blank. -/
def writing? (line : List Char) : Option (List Char) :=
  if Text.trim line = [] then none else some (Text.trimEnd line)

/-- What is written on the lines of a text that are not blank. -/
def content (text : List Char) : List (List Char) := (Text.splitAt '\n' text).filterMap writing?

lemma writing?_append_blanks (line : List Char) {blanks : List Char}
    (h : ∀ c ∈ blanks, Text.isBlank c = true) : writing? (line ++ blanks) = writing? line := by
  rw [writing?, writing?, Text.trim_append_blanks line h, Text.trimEnd_append_blanks line h]

lemma writing?_of_blank {line : List Char} (h : ∀ c ∈ line, Text.isBlank c = true) :
    writing? line = none := if_pos (Text.trim_eq_nil_iff.2 h)

lemma writing?_dropReturn (line : List Char) :
    writing? (Text.dropReturn line.reverse).reverse = writing? line := by
  obtain ⟨blanks, hblanks, hline⟩ := Text.exists_append_dropReturn line
  conv_rhs => rw [hline]
  rw [writing?_append_blanks _ hblanks]

lemma content_of_not_mem {line : List Char} (h : '\n' ∉ line) :
    content line = (writing? line).toList := by
  rw [content, Text.splitAt_of_not_mem h, List.filterMap_cons, List.filterMap_nil]
  cases writing? line <;> rfl

lemma content_append {line : List Char} (h : '\n' ∉ line) (rest : List Char) :
    content (line ++ '\n' :: rest) = (writing? line).toList ++ content rest := by
  rw [content, Text.splitAt_append h, List.filterMap_cons, content]
  cases writing? line <;> rfl

/-- Lines of blanks hold nothing. -/
lemma content_of_blank {text : List Char} (h : ∀ c ∈ text, Text.isBlank c = true) :
    content text = [] := by
  induction text using Text.line_induction with
  | last line hline => rw [content_of_not_mem hline, writing?_of_blank h, Option.toList_none]
  | line line rest hline ih =>
    rw [content_append hline, writing?_of_blank fun c hc => h c (List.mem_append_left _ hc),
      ih fun c hc => h c (List.mem_append_right _ (List.mem_cons_of_mem _ hc))]
    rfl

/-- A line feed parts the content of a text. -/
lemma content_append_feed (front back : List Char) :
    content (front ++ '\n' :: back) = content front ++ content back := by
  induction front using Text.line_induction with
  | last line hline => rw [content_append hline, content_of_not_mem hline]
  | line line rest hline ih =>
    rw [List.append_assoc, List.cons_append, content_append hline, content_append hline, ih,
      List.append_assoc]

/-- Blanks at the end of the last line are not part of the content. -/
lemma content_append_blanks (front : List Char) {blanks : List Char}
    (h : ∀ c ∈ blanks, Text.isBlank c = true) (hfeed : '\n' ∉ blanks) :
    content (front ++ blanks) = content front := by
  induction front using Text.line_induction with
  | last line hline =>
    have hnone : '\n' ∉ line ++ blanks := by simp [hline, hfeed]
    rw [content_of_not_mem hnone, content_of_not_mem hline, writing?_append_blanks line h]
  | line line rest hline ih =>
    rw [List.append_assoc, List.cons_append, content_append hline, content_append hline, ih]

lemma withReturns_of_not_mem {line : List Char} (h : '\n' ∉ line) : withReturns line = line := by
  induction line with
  | nil => rfl
  | cons c line ih =>
    obtain ⟨hc, hline⟩ := not_or.1 (mt List.mem_cons.2 h)
    rw [withReturns, List.flatMap_cons, if_neg (Ne.symm hc), ← withReturns, ih hline]
    rfl

lemma withReturns_append (line rest : List Char) :
    withReturns (line ++ '\n' :: rest) = withReturns line ++ '\r' :: '\n' :: withReturns rest := by
  simp [withReturns]

lemma content_withReturns (text : List Char) : content (withReturns text) = content text := by
  induction text using Text.line_induction with
  | last line hline => rw [withReturns_of_not_mem hline]
  | line line rest hline ih =>
    have hreturn : ∀ c ∈ ['\r'], Text.isBlank c = true :=
      List.forall_mem_singleton.2 (by decide)
    have hnone : '\n' ∉ line ++ ['\r'] := by simp [hline]
    have htext : withReturns (line ++ '\n' :: rest) =
        (line ++ ['\r']) ++ '\n' :: withReturns rest := by
      rw [withReturns_append, withReturns_of_not_mem hline, List.append_assoc]
      rfl
    rw [htext, content_append hnone, content_append hline, writing?_append_blanks line hreturn, ih]

/-- No change of the spacing touches the content. -/
lemma Respaced.content_eq {text text' : List Char} (h : Respaced text text') :
    content text' = content text := by
  cases h with
  | blankLine front blanks back hfront hblanks =>
    rcases hfront with rfl | hfront
    · rw [List.nil_append, List.nil_append, content_append_feed, content_of_blank hblanks,
        List.nil_append]
    -- the line feed before the blank line parts the text too
    · obtain ⟨lines, rfl⟩ := List.getLast?_eq_some_iff.1 hfront
      rw [List.append_assoc, List.append_assoc, List.singleton_append, List.singleton_append,
        content_append_feed, content_append_feed, content_append_feed, content_of_blank hblanks,
        List.nil_append]
  | trailing front blanks back hblanks hfeed hback =>
    rw [← List.append_assoc]
    cases back with
    | nil => rw [List.append_nil, List.append_nil, content_append_blanks front hblanks hfeed]
    | cons c back =>
      obtain rfl : c = '\n' := by simpa using hback
      rw [content_append_feed, content_append_feed, content_append_blanks front hblanks hfeed]
  | returns text => exact content_withReturns text
  | lastFeed text =>
    rw [content_append_feed]
    exact List.append_nil _

/-- Changes of the spacing, one after the other and forth and back, do not touch the content. -/
lemma content_eq_of_eqvGen {text text' : List Char} (h : Relation.EqvGen Respaced text text') :
    content text = content text' := by
  induction h with
  | rel _ _ h => exact h.content_eq.symm
  | refl _ => rfl
  | symm _ _ _ ih => exact ih.symm
  | trans _ _ _ _ _ ih ih' => exact ih.trans ih'

/-! ### Reading the content -/

/-- The lines that are read are those of the content, perhaps with blanks at their ends. -/
lemma map_trimEnd_filledLines (text : List Char) :
    (filledLines text).map Text.trimEnd = content text := by
  rw [content, ← Text.filterMap_lines (writing?_of_blank (by simp)) writing?_dropReturn,
    filledLines, ← List.filterMap_eq_map, List.filterMap_filter]
  congr 1
  funext line
  rw [writing?]
  cases Text.trim line <;> rfl

lemma sameCells_trimEnd (line : List Char) :
    SameCells (cells line) (cells (Text.trimEnd line)) := by
  conv_lhs => rw [← Text.trimEnd_append_takeWhile line]
  refine sameCells_append_blanks _ fun c hc => ?_
  exact List.mem_takeWhile_imp (List.mem_reverse.1 hc)

/-- A table is read from the content of its text. -/
theorem read_eq_readGrid (policy : Policy) (text : String) :
    read policy text = readGrid policy ((content text.toList).map cells) := by
  rw [read, ← map_trimEnd_filledLines]
  cases filledLines text.toList with
  | nil => rfl
  | cons header rows =>
    refine (sameCells_trimEnd header).readGrid_eq policy ?_
    rw [List.map_map, List.forall₂_map_left_iff, List.forall₂_map_right_iff, List.forall₂_same]
    exact fun row _ => sameCells_trimEnd row

/-- **Spacing does not matter.**  Texts that differ in their spacing only are read alike, under
every policy: the same jobs are read or the table is refused with the same error, and the same is
noticed. -/
theorem read_respaced (policy : Policy) {text text' : String}
    (h : Relation.EqvGen Respaced text.toList text'.toList) :
    read policy text = read policy text' := by
  rw [read_eq_readGrid, read_eq_readGrid, content_eq_of_eqvGen h]

/-- A table with one job, whose name ends one byte before the border of its column. -/
def denseTable : List Char := ['J', 'O', 'B', 'I', 'D', '\n'] ++ List.replicate 199 'x'

/-- The same table with a blank line, carriage returns and a blank of three bytes that crosses the
border of the column. -/
def airyTable : List Char :=
  ['\t', '\n', 'J', 'O', 'B', 'I', 'D', '\r', '\n'] ++ List.replicate 199 'x' ++
    ['\u2003', '\r', '\n']

/-- The job is found in both tables. -/
theorem read_respaced_airyTable :
    Relation.EqvGen Respaced (String.ofList denseTable).toList (String.ofList airyTable).toList ∧
    read .reject (String.ofList denseTable) = read .reject (String.ofList airyTable) ∧
    (read .reject (String.ofList airyTable)).value =
      .ok [{ id := String.ofList (List.replicate 199 'x') }] := by
  have hspaced : ∀ text : List Char, Relation.EqvGen Respaced text
      (['\t'] ++ '\n' :: withReturns (text ++ ['\u2003'] ++ ['\n'])) := by
    intro text
    have hspace := Respaced.trailing text ['\u2003'] []
      (List.forall_mem_singleton.2 (by decide)) (by decide) (Or.inl rfl)
    rw [List.append_nil, List.append_nil] at hspace
    have hblank := Respaced.blankLine [] ['\t']
      (withReturns (text ++ ['\u2003'] ++ ['\n'])) (Or.inl rfl)
      (List.forall_mem_singleton.2 (by decide))
    rw [List.nil_append, List.nil_append] at hblank
    exact .trans _ _ _ (.rel _ _ hspace) (.trans _ _ _ (.rel _ _ (.lastFeed _))
      (.trans _ _ _ (.rel _ _ (.returns _)) (.rel _ _ hblank)))
  have hairy : airyTable = ['\t'] ++ '\n' :: withReturns (denseTable ++ ['\u2003'] ++ ['\n']) := by
    decide +kernel
  have htexts : Relation.EqvGen Respaced (String.ofList denseTable).toList
      (String.ofList airyTable).toList := by
    rw [String.toList_ofList, String.toList_ofList, hairy]
    exact hspaced denseTable
  refine ⟨htexts, read_respaced .reject htexts, ?_⟩
  rw [read, String.toList_ofList]
  decide +kernel

end NodeDemand.Table
