/-
# Cells that fill their columns

A cell that is not too long is written as exactly as many bytes as a column is wide
(`byteSize_padCell`), so a line of such cells is cut where the cells were put together, however
many bytes their characters have (`cells_flatMap_padCell`).  A grid of cells that have no line
feed and no blanks at their ends is therefore found again in its text (`grid_writeGrid`).
-/
import NodeDemand.Proofs.Text.Lines
import NodeDemand.Proofs.Text.Trim
import NodeDemand.Table.Writer
import Mathlib.Data.Nat.Notation

namespace NodeDemand.Table

/-! ### Sizes in bytes -/

@[simp] lemma byteSize_nil : byteSize [] = 0 := rfl

@[simp] lemma byteSize_cons (c : Char) (s : List Char) :
    byteSize (c :: s) = c.utf8Size + byteSize s := rfl

lemma byteSize_append (s t : List Char) : byteSize (s ++ t) = byteSize s + byteSize t := by
  induction s with
  | nil => exact (Nat.zero_add _).symm
  | cons c s ih => rw [List.cons_append, byteSize_cons, byteSize_cons, ih, Nat.add_assoc]

lemma byteSize_replicate_space (n : ℕ) : byteSize (List.replicate n ' ') = n := by
  induction n with
  | zero => rfl
  | succ n ih =>
    rw [List.replicate_succ, byteSize_cons, ih]
    exact Nat.add_comm 1 n

lemma byteSize_padCell {cell : String} (h : byteSize cell.toList ≤ cellWidth) :
    byteSize (padCell cell) = cellWidth := by
  rw [padCell, byteSize_append, byteSize_replicate_space]
  omega

/-! ### Cutting -/

/-- Pieces and cells have no characters but those of their line. -/
lemma mem_of_mem_piece {line piece : List Char} (hpiece : piece ∈ pieces line) {c : Char}
    (hc : c ∈ piece) : c ∈ line := by
  rw [← flatten_pieces line]
  exact List.mem_flatten.2 ⟨piece, hpiece, hc⟩

lemma mem_of_mem_cell {line : List Char} {cell : String} (hcell : cell ∈ cells line) {c : Char}
    (hc : c ∈ cell.toList) : c ∈ line := by
  obtain ⟨piece, hpiece, rfl⟩ := List.mem_map.1 hcell
  rw [String.toList_ofList] at hc
  exact mem_of_mem_piece hpiece (Text.mem_of_mem_trim hc)

/-- A part that has the wanted size is cut off whole, whatever follows it. -/
lemma cut_append {width : ℕ} {part : List Char} (hpos : 0 < width) (h : byteSize part = width)
    (rest : List Char) : cut width (part ++ rest) = (part, rest) := by
  induction part generalizing width with
  | nil =>
    rw [byteSize_nil] at h
    omega
  | cons c part ih =>
    rw [byteSize_cons] at h
    rw [List.cons_append, cut]
    split
    -- the last character of the part: every other one would take up a byte
    · have hsize : byteSize part = 0 := by omega
      cases part with
      | nil => rfl
      | cons d part =>
        have hd := d.utf8Size_pos
        rw [byteSize_cons] at hsize
        omega
    · rw [ih (by omega) (by omega)]

lemma pieces_append {piece : List Char} (h : byteSize piece = cellWidth) (rest : List Char) :
    pieces (piece ++ rest) = piece :: pieces rest := by
  cases piece with
  | nil => exact absurd h (by decide)
  | cons c piece =>
    rw [List.cons_append, pieces, ← List.cons_append, cut_append (by decide) h]

/-- Pieces that fill their columns are found again. -/
lemma pieces_flatten_eq {parts : List (List Char)}
    (h : ∀ part ∈ parts, byteSize part = cellWidth) : pieces parts.flatten = parts := by
  induction parts with
  | nil => rw [List.flatten_nil, pieces]
  | cons part rest ih =>
    rw [List.flatten_cons, pieces_append (h part List.mem_cons_self),
      ih fun p hp => h p (List.mem_cons_of_mem part hp)]

lemma trim_padCell (cell : String) : Text.trim (padCell cell) = Text.trim cell.toList := by
  refine Text.trim_append_blanks cell.toList fun c hc => ?_
  rw [List.eq_of_mem_replicate hc]
  exact Text.isBlank_space

/-- A written row is cut into its cells, which lose the blanks at their ends. -/
lemma cells_flatMap_padCell {row : List String}
    (h : ∀ cell ∈ row, byteSize cell.toList ≤ cellWidth) :
    cells (row.flatMap padCell) = row.map fun cell => String.ofList (Text.trim cell.toList) := by
  have hsize : ∀ part ∈ row.map padCell, byteSize part = cellWidth := by
    intro part hpart
    obtain ⟨cell, hcell, rfl⟩ := List.mem_map.1 hpart
    exact byteSize_padCell (h cell hcell)
  rw [cells, List.flatMap_def, pieces_flatten_eq hsize, List.map_map]
  refine List.map_congr_left fun cell _ => ?_
  rw [Function.comp_apply, trim_padCell]

/-! ### Grids -/

/-- A cell that a column can hold as it is. -/
structure FitsCell (cell : String) : Prop where
  /-- The cell is not wider than a column. -/
  size_le : byteSize cell.toList ≤ cellWidth
  /-- There are no blanks at the ends of the cell. -/
  trimmed : Text.trim cell.toList = cell.toList
  /-- The cell does not end the line. -/
  no_feed : '\n' ∉ cell.toList

instance (cell : String) : Decidable (FitsCell cell) :=
  decidable_of_iff (byteSize cell.toList ≤ cellWidth ∧
      Text.trim cell.toList = cell.toList ∧ '\n' ∉ cell.toList)
    ⟨fun ⟨h₁, h₂, h₃⟩ => ⟨h₁, h₂, h₃⟩, fun ⟨h₁, h₂, h₃⟩ => ⟨h₁, h₂, h₃⟩⟩

/-- A row of cells that columns can hold, not all of them empty. -/
structure FitsRow (row : List String) : Prop where
  /-- Every cell fits. -/
  fits : ∀ cell ∈ row, FitsCell cell
  /-- The row is not blank. -/
  filled : ∃ cell ∈ row, cell ≠ ""

lemma no_feed_padCell {cell : String} (h : '\n' ∉ cell.toList) : '\n' ∉ padCell cell := by
  intro hmem
  rcases List.mem_append.1 hmem with hmem | hmem
  · exact h hmem
  · exact absurd (List.eq_of_mem_replicate hmem) (by decide)

/-- A written row ends in a space or in the last character of a cell, which is not blank. -/
lemma getLast?_flatMap_padCell {row : List String} (h : ∀ cell ∈ row, FitsCell cell) :
    (row.flatMap padCell).getLast? ≠ some '\r' := by
  induction row with
  | nil => simp
  | cons cell rest ih =>
    have hcell := h cell List.mem_cons_self
    have hrest := ih fun c hc => h c (List.mem_cons_of_mem cell hc)
    intro hlast
    rw [List.flatMap_cons, List.getLast?_append, Option.or_eq_some_iff] at hlast
    rcases hlast with hlast | ⟨-, hlast⟩
    · exact hrest hlast
    · rw [padCell, List.getLast?_append, Option.or_eq_some_iff] at hlast
      rcases hlast with hlast | ⟨-, hlast⟩
      · exact absurd (List.eq_of_mem_replicate (List.mem_of_getLast? hlast)) (by decide)
      · exact absurd (Text.isBlank_getLast? hcell.trimmed '\r' hlast) (by decide)

/-- A written row with a cell that is not blank is not blank. -/
lemma trim_flatMap_padCell_ne_nil {row : List String}
    (h : ∃ cell ∈ row, Text.trim cell.toList ≠ []) : Text.trim (row.flatMap padCell) ≠ [] := by
  obtain ⟨cell, hcell, hne⟩ := h
  intro hnil
  refine hne (Text.trim_eq_nil_iff.2 fun c hc => Text.trim_eq_nil_iff.1 hnil c ?_)
  exact List.mem_flatMap.2 ⟨cell, hcell, List.mem_append.2 (Or.inl hc)⟩

lemma FitsRow.exists_trim_ne_nil {row : List String} (h : FitsRow row) :
    ∃ cell ∈ row, Text.trim cell.toList ≠ [] := by
  obtain ⟨cell, hcell, hne⟩ := h.filled
  refine ⟨cell, hcell, ?_⟩
  rw [(h.fits cell hcell).trimmed]
  exact fun hnil => hne (String.toList_eq_nil_iff.1 hnil)

/-- The lines of a written grid are its written rows, each without a carriage return at its end. -/
lemma lines_writeGrid_of_no_feed {rows : List (List String)}
    (h : ∀ row ∈ rows, ∀ cell ∈ row, '\n' ∉ cell.toList) :
    Text.lines (writeGrid rows).toList =
      rows.map fun row => (Text.dropReturn (row.flatMap padCell).reverse).reverse := by
  have htext : (writeGrid rows).toList =
      (rows.map (·.flatMap padCell)).flatMap fun line => line ++ ['\n'] := by
    rw [writeGrid, String.toList_ofList, List.flatMap_map]
    rfl
  rw [htext, Text.lines_flatMap, List.map_map]
  · rfl
  · intro line hline hfeed
    obtain ⟨row, hrow, rfl⟩ := List.mem_map.1 hline
    obtain ⟨cell, hcell, hmem⟩ := List.mem_flatMap.1 hfeed
    exact no_feed_padCell (h row hrow cell hcell) hmem

/-- The lines of a written grid are its written rows. -/
lemma lines_writeGrid {rows : List (List String)}
    (h : ∀ row ∈ rows, ∀ cell ∈ row, FitsCell cell) :
    Text.lines (writeGrid rows).toList = rows.map (·.flatMap padCell) := by
  rw [lines_writeGrid_of_no_feed fun row hrow cell hcell => (h row hrow cell hcell).no_feed]
  refine List.map_congr_left fun row hrow => ?_
  rw [Text.dropReturn_reverse (getLast?_flatMap_padCell (h row hrow)), List.reverse_reverse]

lemma filledLines_writeGrid {rows : List (List String)} (h : ∀ row ∈ rows, FitsRow row) :
    filledLines (writeGrid rows).toList = rows.map (·.flatMap padCell) := by
  rw [filledLines, lines_writeGrid fun row hrow => (h row hrow).fits]
  refine List.filter_eq_self.2 fun line hline => ?_
  obtain ⟨row, hrow, rfl⟩ := List.mem_map.1 hline
  simpa using trim_flatMap_padCell_ne_nil (h row hrow).exists_trim_ne_nil

/-- Cells without blanks at their ends are found again in a written row. -/
lemma cells_flatMap_of_fitsCell {row : List String} (h : ∀ cell ∈ row, FitsCell cell) :
    cells (row.flatMap padCell) = row := by
  rw [cells_flatMap_padCell fun cell hcell => (h cell hcell).size_le]
  calc row.map (fun cell => String.ofList (Text.trim cell.toList))
      = row.map id := by
        refine List.map_congr_left fun cell hcell => ?_
        rw [(h cell hcell).trimmed, String.ofList_toList, id]
    _ = row := List.map_id row

/-- **Written grids are found again.**  The cells of the lines of a written grid are its cells. -/
theorem grid_writeGrid {rows : List (List String)} (h : ∀ row ∈ rows, FitsRow row) :
    (filledLines (writeGrid rows).toList).map cells = rows := by
  rw [filledLines_writeGrid h, List.map_map]
  calc rows.map (cells ∘ (·.flatMap padCell))
      = rows.map id := by
        refine List.map_congr_left fun row hrow => ?_
        exact cells_flatMap_of_fitsCell (h row hrow).fits
    _ = rows := List.map_id rows

end NodeDemand.Table
