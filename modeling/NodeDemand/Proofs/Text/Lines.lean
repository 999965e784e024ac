/-
# Lines that are ended by line feeds

Lines without line feeds, each ended by one, are the lines of the text that they make up, except
that a carriage return at the end of a line belongs to the line end (`lines_flatMap`).

A text is a line without line feeds, or such a line that is ended by a line feed and followed by a
text (`line_induction`).  So what does not see the line ends finds the same in the lines of a text
as in its parts between the line feeds (`filterMap_lines`).
-/
import NodeDemand.Text.Blank
import NodeDemand.Text.Lines
import Mathlib.Tactic.Lemma

namespace NodeDemand.Text

/-- A line ends at the first line feed. -/
lemma linesFrom_append {line : List Char} (h : '\n' ∉ line) (read rest : List Char) :
    linesFrom read (line ++ '\n' :: rest) =
      (dropReturn (line.reverse ++ read)).reverse :: linesFrom [] rest := by
  induction line generalizing read with
  | nil => rw [List.nil_append, linesFrom]; rfl
  | cons c line ih =>
    have hc : c ≠ '\n' := fun heq => h (heq ▸ List.mem_cons_self)
    have hline : '\n' ∉ line := fun hmem => h (List.mem_cons_of_mem c hmem)
    rw [List.cons_append, linesFrom, ih hline, List.reverse_cons, List.append_assoc]
    · rfl
    · exact hc

lemma dropReturn_reverse {line : List Char} (h : line.getLast? ≠ some '\r') :
    dropReturn line.reverse = line.reverse := by
  cases hrev : line.reverse with
  | nil => rfl
  | cons c rest =>
    have hlast : line.getLast? = some c := by
      rw [← List.head?_reverse, hrev]
      rfl
    rw [hlast, ne_eq, Option.some.injEq] at h
    rw [dropReturn]
    rintro rest' heq
    exact h (List.cons.inj heq).1

lemma lines_flatMap {rows : List (List Char)} (h : ∀ row ∈ rows, '\n' ∉ row) :
    lines (rows.flatMap fun row => row ++ ['\n']) =
      rows.map fun row => (dropReturn row.reverse).reverse := by
  unfold lines
  induction rows with
  | nil => rfl
  | cons row rest ih =>
    rw [List.flatMap_cons, List.append_assoc, List.singleton_append,
      linesFrom_append (h row List.mem_cons_self), List.append_nil,
      ih fun r hr => h r (List.mem_cons_of_mem row hr), List.map_cons]

/-- What belongs to the line end is blank. -/
lemma exists_append_dropReturn (line : List Char) :
    ∃ blanks, (∀ c ∈ blanks, isBlank c = true) ∧
      line = (dropReturn line.reverse).reverse ++ blanks := by
  rcases Classical.em (line.getLast? = some '\r') with hlast | hlast
  · obtain ⟨front, rfl⟩ := List.getLast?_eq_some_iff.1 hlast
    have hreturn : isBlank '\r' = true := by decide
    refine ⟨['\r'], by simpa using hreturn, ?_⟩
    rw [List.reverse_append, List.reverse_singleton, List.singleton_append, dropReturn,
      List.reverse_reverse]
  · exact ⟨[], by simp, by rw [dropReturn_reverse hlast, List.reverse_reverse, List.append_nil]⟩

/-! ### Lines, one after the other -/

/-- What holds of a line without line feeds, and of such a line and its line feed in front of a text
if it holds of the text, holds of every text. -/
@[elab_as_elim]
theorem line_induction {motive : List Char → Prop} (text : List Char)
    (last : ∀ line, '\n' ∉ line → motive line)
    (line : ∀ line rest, '\n' ∉ line → motive rest → motive (line ++ '\n' :: rest)) :
    motive text := by
  by_cases h : '\n' ∈ text
  · obtain ⟨first, rest, htext, hfirst⟩ := List.eq_append_cons_of_mem h
    rw [htext]
    exact line first rest hfirst (line_induction rest last line)
  · exact last text h
termination_by text.length
decreasing_by
  rw [htext, List.length_append, List.length_cons]
  omega

lemma splitAt_of_not_mem {sep : Char} {part : List Char} (h : sep ∉ part) :
    splitAt sep part = [part] := by
  induction part with
  | nil => rfl
  | cons c part ih =>
    obtain ⟨hc, hpart⟩ := not_or.1 (mt List.mem_cons.2 h)
    rw [splitAt, if_neg (Ne.symm hc), ih hpart]

lemma splitAt_append {sep : Char} {part : List Char} (h : sep ∉ part) (rest : List Char) :
    splitAt sep (part ++ sep :: rest) = part :: splitAt sep rest := by
  induction part with
  | nil => rw [List.nil_append, splitAt, if_pos rfl]
  | cons c part ih =>
    obtain ⟨hc, hpart⟩ := not_or.1 (mt List.mem_cons.2 h)
    rw [List.cons_append, splitAt, if_neg (Ne.symm hc), ih hpart]

/-- Parts without separators that are joined by separators are found again. -/
lemma splitAt_joinWith {sep : Char} {parts : List (List Char)} (hne : parts ≠ [])
    (h : ∀ part ∈ parts, sep ∉ part) : splitAt sep (joinWith [sep] parts) = parts := by
  induction parts with
  | nil => exact absurd rfl hne
  | cons part parts ih =>
    have hpart := h part List.mem_cons_self
    cases parts with
    | nil => exact splitAt_of_not_mem hpart
    | cons next parts =>
      rw [joinWith, List.append_assoc, List.singleton_append, splitAt_append hpart,
        ih (List.cons_ne_nil next parts) fun p hp => h p (List.mem_cons_of_mem part hp)]
      exact List.cons_ne_nil next parts

/-- Lines that are each ended by a separator are found again, with nothing behind the last
separator. -/
lemma splitAt_flatMap {sep : Char} {rows : List (List Char)} (h : ∀ row ∈ rows, sep ∉ row) :
    splitAt sep (rows.flatMap fun row => row ++ [sep]) = rows ++ [[]] := by
  induction rows with
  | nil => rfl
  | cons row rest ih =>
    rw [List.flatMap_cons, List.append_assoc, List.singleton_append,
      splitAt_append (h row List.mem_cons_self), ih fun r hr => h r (List.mem_cons_of_mem row hr),
      List.cons_append]

/-- A text without line feeds is one line, unless it is empty. -/
lemma lines_of_not_mem {line : List Char} (h : '\n' ∉ line) :
    lines line = if line = [] then [] else [line] := by
  have hread : ∀ read, linesFrom read line =
      if (line.reverse ++ read).isEmpty then [] else [(line.reverse ++ read).reverse] := by
    induction line with
    | nil => intro read; rfl
    | cons c line ih =>
      intro read
      obtain ⟨hc, hline⟩ := not_or.1 (mt List.mem_cons.2 h)
      rw [linesFrom, ih hline, List.reverse_cons, List.append_assoc]
      · rfl
      · exact Ne.symm hc
  rw [lines, hread, List.append_nil]
  simp

/-- Lines have no line feeds. -/
lemma not_mem_of_mem_lines {text row : List Char} (h : row ∈ lines text) : '\n' ∉ row := by
  induction text using line_induction with
  | last line hline =>
    rw [lines_of_not_mem hline] at h
    split at h
    · exact absurd h List.not_mem_nil
    · rwa [List.mem_singleton.1 h]
  | line line rest hline ih =>
    rw [lines, linesFrom_append hline, List.append_nil, ← lines] at h
    rcases List.mem_cons.1 h with rfl | h
    · obtain ⟨blanks, -, hsplit⟩ := exists_append_dropReturn line
      rw [hsplit] at hline
      exact fun hmem => hline (List.mem_append_left blanks hmem)
    · exact ih h

/-- What sees neither a carriage return at the end of a line nor an empty line finds the same in
the lines of a text as in the parts between its line feeds. -/
lemma filterMap_lines {β : Type} {f : List Char → Option β} (hnil : f [] = none)
    (hreturn : ∀ line, f (dropReturn line.reverse).reverse = f line) (text : List Char) :
    (lines text).filterMap f = (splitAt '\n' text).filterMap f := by
  induction text using line_induction with
  | last line h =>
    rw [lines_of_not_mem h, splitAt_of_not_mem h]
    split
    · rename_i hempty
      rw [hempty, List.filterMap_cons_none hnil, List.filterMap_nil]
    · rfl
  | line line rest h ih =>
    rw [lines] at ih ⊢
    rw [linesFrom_append h, splitAt_append h, List.append_nil, List.filterMap_cons,
      List.filterMap_cons, hreturn, ih]

end NodeDemand.Text
