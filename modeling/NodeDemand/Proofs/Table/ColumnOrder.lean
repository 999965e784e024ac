/-
# The order of columns does not matter

A table may be put together column by column.  Each column has a header and one cell for every row,
written into its width whatever blanks are around them (`TableColumn`).  The reader finds a cell by
the name of its column (`cellIn?_map_eq_some_iff`), so columns may be put in any order, and columns
with other names may be added between them (`read_rearranged`).

A cell that fills its column may end in a carriage return.  At the end of a row this belongs to the
line end, but it is blank, so the cells are the same (`read_writeGrid`).
-/
import NodeDemand.Proofs.Table.Layout
import Mathlib.Data.List.Nodup

namespace NodeDemand.Table

/-! ### Grids of untrimmed cells -/

/-- A cell that can be written into a column. -/
structure IsCell (cell : String) : Prop where
  /-- The cell is not wider than a column. -/
  size_le : byteSize cell.toList ≤ cellWidth
  /-- The cell does not end the line. -/
  no_feed : '\n' ∉ cell.toList

instance (cell : String) : Decidable (IsCell cell) :=
  decidable_of_iff (byteSize cell.toList ≤ cellWidth ∧ '\n' ∉ cell.toList)
    ⟨fun ⟨h₁, h₂⟩ => ⟨h₁, h₂⟩, fun ⟨h₁, h₂⟩ => ⟨h₁, h₂⟩⟩

/-- A cell without the blanks around it. -/
def trimCell (cell : String) : String := String.ofList (Text.trim cell.toList)

lemma cells_dropReturn {row : List String} (h : ∀ cell ∈ row, IsCell cell) :
    SameCells (cells (Text.dropReturn (row.flatMap padCell).reverse).reverse)
      (row.map trimCell) := by
  obtain ⟨blanks, hblanks, hline⟩ := Text.exists_append_dropReturn (row.flatMap padCell)
  have hsame := sameCells_append_blanks
    (Text.dropReturn (row.flatMap padCell).reverse).reverse hblanks
  rw [← hline, cells_flatMap_padCell fun cell hcell => (h cell hcell).size_le] at hsame
  exact hsame.symm

/-- A written grid with no blank row is read as the grid of its cells without the blanks around
them. -/
theorem read_writeGrid (policy : Policy) {rows : List (List String)}
    (hcells : ∀ row ∈ rows, ∀ cell ∈ row, IsCell cell)
    (hrows : ∀ row ∈ rows, ∃ cell ∈ row, Text.trim cell.toList ≠ []) :
    read policy (writeGrid rows) = readGrid policy (rows.map (·.map trimCell)) := by
  have hlines : filledLines (writeGrid rows).toList =
      rows.map fun row => (Text.dropReturn (row.flatMap padCell).reverse).reverse := by
    rw [filledLines, lines_writeGrid_of_no_feed fun row hrow cell hcell =>
      (hcells row hrow cell hcell).no_feed]
    refine List.filter_eq_self.2 fun line hline => ?_
    obtain ⟨row, hrow, rfl⟩ := List.mem_map.1 hline
    obtain ⟨blanks, hblanks, hsplit⟩ := Text.exists_append_dropReturn (row.flatMap padCell)
    have hfilled := trim_flatMap_padCell_ne_nil (hrows row hrow)
    rw [hsplit, Text.trim_append_blanks _ hblanks] at hfilled
    simpa using hfilled
  rw [read, hlines, List.map_map]
  cases rows with
  | nil => rfl
  | cons header rows =>
    refine SameCells.readGrid_eq policy (cells_dropReturn (hcells header List.mem_cons_self)) ?_
    rw [List.forall₂_map_left_iff, List.forall₂_map_right_iff, List.forall₂_same]
    exact fun row hrow => cells_dropReturn (hcells row (List.mem_cons_of_mem header hrow))

/-! ### Columns of a table -/

/-- A column of a table with `n` rows below its header. -/
structure TableColumn (n : ℕ) where
  /-- The header as it stands in the table. -/
  header : String
  /-- The cell of each row. -/
  cell : Fin n → String
  isCell_header : IsCell header
  isCell_cell : ∀ k, IsCell (cell k)

variable {n : ℕ}

/-- The column with a header and the cells of a list. -/
def TableColumn.ofList (header : String) (cells : List String)
    (h : ∀ cell ∈ header :: cells, IsCell cell) : TableColumn cells.length where
  header
  cell := cells.get
  isCell_header := h header List.mem_cons_self
  isCell_cell k := h _ (List.mem_cons_of_mem header (List.get_mem cells k))

/-- The name that the header of a column gives it. -/
def TableColumn.name (column : TableColumn n) : String := trimCell column.header

/-- The grid that columns make up: the row of their headers and the rows of their cells. -/
def grid (columns : List (TableColumn n)) : List (List String) :=
  columns.map (·.header) :: (List.finRange n).map fun k => columns.map (·.cell k)

/-- The columns have a name for jobs, and no row is blank in all of them. -/
structure IsTable (columns : List (TableColumn n)) : Prop where
  /-- Names are different from each other. -/
  nodup : (columns.map TableColumn.name).Nodup
  /-- One column has the names of jobs. -/
  id_mem : Column.id.header ∈ columns.map TableColumn.name
  /-- Every row has a cell that is not blank. -/
  filled : ∀ k, ∃ column ∈ columns, Text.trim (column.cell k).toList ≠ []

/-- A grid of columns is read as the grid of its trimmed cells. -/
lemma read_grid (policy : Policy) {columns : List (TableColumn n)}
    (hid : Column.id.header ∈ columns.map TableColumn.name)
    (hfilled : ∀ k, ∃ column ∈ columns, Text.trim (column.cell k).toList ≠ []) :
    read policy (writeGrid (grid columns)) =
      readGrid policy (columns.map TableColumn.name ::
        (List.finRange n).map fun k => columns.map fun column => trimCell (column.cell k)) := by
  rw [read_writeGrid policy, grid, List.map_cons, List.map_map, List.map_map]
  · simp only [Function.comp_def, List.map_map]
    rfl
  · intro row hrow cell hcell
    rcases List.mem_cons.1 hrow with rfl | hrow
    · obtain ⟨column, -, rfl⟩ := List.mem_map.1 hcell
      exact column.isCell_header
    · obtain ⟨k, -, rfl⟩ := List.mem_map.1 hrow
      obtain ⟨column, -, rfl⟩ := List.mem_map.1 hcell
      exact column.isCell_cell k
  · intro row hrow
    rcases List.mem_cons.1 hrow with rfl | hrow
    · obtain ⟨column, hcolumn, hname⟩ := List.mem_map.1 hid
      refine ⟨column.header, List.mem_map.2 ⟨column, hcolumn, rfl⟩, fun hnil => ?_⟩
      rw [TableColumn.name, trimCell, hnil] at hname
      exact absurd hname (by decide)
    · obtain ⟨k, -, rfl⟩ := List.mem_map.1 hrow
      obtain ⟨column, hcolumn, hne⟩ := hfilled k
      exact ⟨column.cell k, List.mem_map.2 ⟨column, hcolumn, rfl⟩, hne⟩

/-! ### Looking cells up -/

section Lookup

variable {α : Type} {columns : List α} {name cell : α → String}

/-- The cell of a row in a column is the one that stands below the only header with its name. -/
lemma cellIn?_map_eq_some_iff {column : Column} {value : String}
    (hunique : ∀ a ∈ columns, ∀ b ∈ columns,
      name a = column.header → name b = column.header → a = b) :
    cellIn? (columns.map name) (columns.map cell) column = some value ↔
      ∃ a ∈ columns, name a = column.header ∧ cell a = value := by
  have hfound : ∀ i, lastIndex? column.header (columns.map name) = some i →
      ∃ a ∈ columns, name a = column.header ∧ cellAt (columns.map cell) i = cell a := by
    intro i hi
    have hname := (lastIndex?_eq_some_iff.1 hi).1
    rw [List.getElem?_map, Option.map_eq_some_iff] at hname
    obtain ⟨a, ha, hname⟩ := hname
    refine ⟨a, List.mem_of_getElem? ha, hname, ?_⟩
    rw [cellAt, List.getElem?_map, ha, Option.map_some, Option.getD_some]
  rw [cellIn?, Option.map_eq_some_iff]
  constructor
  · rintro ⟨i, hi, rfl⟩
    obtain ⟨a, ha, hname, hcell⟩ := hfound i hi
    exact ⟨a, ha, hname, hcell.symm⟩
  · rintro ⟨a, ha, hname, rfl⟩
    obtain ⟨i, hi⟩ : ∃ i, lastIndex? column.header (columns.map name) = some i := by
      rw [← Option.ne_none_iff_exists', ne_eq, lastIndex?_eq_none_iff, not_not]
      exact List.mem_map.2 ⟨a, ha, hname⟩
    obtain ⟨b, hb, hname', hcell⟩ := hfound i hi
    rw [hunique b hb a ha hname' hname] at hcell
    exact ⟨i, hi, hcell⟩

/-- Rows have the same cells below two headers under which the same columns stand. -/
lemma cellIn?_map_congr {columns' : List α}
    (hmem : ∀ a, ∀ column : Column, name a = column.header → (a ∈ columns' ↔ a ∈ columns))
    (hunique : ∀ column : Column, ∀ a ∈ columns, ∀ b ∈ columns,
      name a = column.header → name b = column.header → a = b) :
    cellIn? (columns'.map name) (columns'.map cell) =
      cellIn? (columns.map name) (columns.map cell) := by
  funext column
  apply Option.ext
  intro value
  have hunique' : ∀ a ∈ columns', ∀ b ∈ columns',
      name a = column.header → name b = column.header → a = b := by
    intro a ha b hb hname hname'
    exact hunique column a ((hmem a column hname).1 ha) b ((hmem b column hname').1 hb) hname hname'
  rw [cellIn?_map_eq_some_iff hunique', cellIn?_map_eq_some_iff (hunique column)]
  constructor
  · rintro ⟨a, ha, hname, hcell⟩
    exact ⟨a, (hmem a column hname).1 ha, hname, hcell⟩
  · rintro ⟨a, ha, hname, hcell⟩
    exact ⟨a, (hmem a column hname).2 ha, hname, hcell⟩

end Lookup

/-- **Columns may come in any order and between other columns.**  Take columns with different
names, among them the one with the names of jobs, which make up a table without blank rows.  If
these columns are put in another order, together with columns that no attribute belongs to, the
same jobs are read or the table is refused for the same cell, and the same is noticed. -/
theorem read_rearranged (policy : Policy) {own foreign rearranged : List (TableColumn n)}
    (hown : IsTable own)
    (hforeign : ∀ c ∈ foreign, ∀ column : Column, c.name ≠ column.header)
    (hperm : rearranged.Perm (own ++ foreign)) :
    read policy (writeGrid (grid rearranged)) = read policy (writeGrid (grid own)) := by
  have hsub : ∀ c ∈ own, c ∈ rearranged := fun c hc =>
    hperm.mem_iff.2 (List.mem_append_left foreign hc)
  have hmem : ∀ c, ∀ column : Column, c.name = column.header → (c ∈ rearranged ↔ c ∈ own) := by
    intro c column hname
    refine ⟨fun hc => ?_, hsub c⟩
    rcases List.mem_append.1 (hperm.mem_iff.1 hc) with hc | hc
    · exact hc
    · exact absurd hname (hforeign c hc column)
  have hunique : ∀ column : Column, ∀ a ∈ own, ∀ b ∈ own,
      a.name = column.header → b.name = column.header → a = b := by
    intro column a ha b hb hname hname'
    exact List.inj_on_of_nodup_map hown.nodup ha hb (hname.trans hname'.symm)
  have hheader : ∀ column : Column, column.header ∈ rearranged.map TableColumn.name ↔
      column.header ∈ own.map TableColumn.name := by
    intro column
    rw [List.mem_map, List.mem_map]
    refine exists_congr fun c => and_congr_left fun hname => hmem c column hname
  have hfilled : ∀ k, ∃ c ∈ rearranged, Text.trim (c.cell k).toList ≠ [] := by
    intro k
    obtain ⟨c, hc, hne⟩ := hown.filled k
    exact ⟨c, hsub c hc, hne⟩
  rw [read_grid policy ((hheader .id).2 hown.id_mem) hfilled,
    read_grid policy hown.id_mem hown.filled]
  refine readGrid_congr policy hheader ?_
  rw [List.forall₂_map_left_iff, List.forall₂_map_right_iff, List.forall₂_same]
  exact fun k _ => cellIn?_map_congr hmem hunique

/-- The names of two jobs. -/
def idColumn : TableColumn 2 := .ofList "JOBID" ["7", " 8_1"] (by decide +kernel)

/-- Two node counts, one of which cannot be read. -/
def countColumn : TableColumn 2 := .ofList " NODES" ["2", "two"] (by decide +kernel)

/-- Two reasons, one of which fills its column and ends in a carriage return. -/
def reasonColumn : TableColumn 2 :=
  .ofList "REASON" ["Čekání", String.ofList (List.replicate 199 'x' ++ ['\r'])] (by decide +kernel)

/-- A column that no attribute belongs to. -/
def partitionColumn : TableColumn 2 := .ofList "PARTITION" ["", "Größe"] (by decide +kernel)

theorem read_rearranged_reasons :
    IsTable [idColumn, countColumn, reasonColumn] ∧
    (∀ c ∈ [partitionColumn], ∀ column : Column, c.name ≠ column.header) ∧
    [reasonColumn, partitionColumn, idColumn, countColumn].Perm
      ([idColumn, countColumn, reasonColumn] ++ [partitionColumn]) ∧
    read .default (writeGrid (grid [reasonColumn, partitionColumn, idColumn, countColumn])) =
      read .default (writeGrid (grid [idColumn, countColumn, reasonColumn])) := by
  have hown : IsTable [idColumn, countColumn, reasonColumn] :=
    ⟨by decide +kernel, by decide +kernel, by decide +kernel⟩
  have hforeign : ∀ c ∈ [partitionColumn], ∀ column : Column, c.name ≠ column.header := by
    intro c hc column
    rw [List.mem_singleton.1 hc]
    cases column <;> decide +kernel
  have hperm : [reasonColumn, partitionColumn, idColumn, countColumn].Perm
      ([idColumn, countColumn, reasonColumn] ++ [partitionColumn]) :=
    @List.perm_append_comm _ [reasonColumn, partitionColumn] [idColumn, countColumn]
  exact ⟨hown, hforeign, hperm, read_rearranged .default hown hforeign hperm⟩

end NodeDemand.Table
