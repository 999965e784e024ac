/-
# What the reader sees of a table

The reader looks cells up by the names of columns and sees nothing else of the layout: two grids
with the same cells in the same columns are read alike (`readGrid_congr`).  An empty cell is not
told from one that is absent (`SameCells`), so blanks at the end of a line do not matter, although
they may move the end of its last piece (`sameCells_append_blanks`).
-/
import NodeDemand.Proofs.Table.Cells
import NodeDemand.Proofs.Table.Rows
import Mathlib.Data.List.Forall2

namespace NodeDemand.Table

/-! ### Cells by column -/

/-- The cell of a row in a column, if the header names the column. -/
def cellIn? (header row : List String) (column : Column) : Option String :=
  (lastIndex? column.header header).map (cellAt row)

lemma faultIn?_eq (header row : List String) (column : Column) :
    faultIn? header row column = (cellIn? header row column).bind fun cell =>
      match column.readValue cell with
      | .ok _ => none
      | .error fault => some (.invalidCell column cell fault) := by
  rw [faultIn?, cellIn?]
  cases lastIndex? column.header header <;> rfl

lemma valueIn?_eq (header row : List String) (column : Column) :
    valueIn? header row column =
      (cellIn? header row column).bind fun cell => (column.readValue cell).toOption := by
  rw [valueIn?, cellIn?]
  cases lastIndex? column.header header <;> rfl

section Congr

variable {header header' row row' : List String}

lemma faults_congr (h : cellIn? header row = cellIn? header' row') :
    faults header row = faults header' row' := by
  have hfault : faultIn? header row = faultIn? header' row' := by
    funext column
    rw [faultIn?_eq, faultIn?_eq, h]
  rw [faults, faults, hfault]

lemma rowJob_congr (h : cellIn? header row = cellIn? header' row') :
    rowJob header row = rowJob header' row' := by
  apply Column.ext_get
  intro column
  rw [get_rowJob, get_rowJob, valueIn, valueIn, valueIn?_eq, valueIn?_eq, h]

variable {rows rows' : List (List String)}

lemma readRows_congr (policy : Policy) {i i' : ℕ}
    (hi : lastIndex? Column.id.header header = some i)
    (hi' : lastIndex? Column.id.header header' = some i')
    (h : List.Forall₂ (fun row row' => cellIn? header row = cellIn? header' row') rows rows') :
    readRows policy i (presentColumns header) rows =
      readRows policy i' (presentColumns header') rows' := by
  induction h with
  | nil => rfl
  | cons hrow _ ih =>
    rw [readRows, readRows, readRow_eq hi, readRow_eq hi', faults_congr hrow, rowJob_congr hrow, ih]

/-- Grids whose headers name the same columns and whose rows have the same cells in these are read
alike. -/
theorem readGrid_congr (policy : Policy)
    (hheader : ∀ column : Column, column.header ∈ header ↔ column.header ∈ header')
    (h : List.Forall₂ (fun row row' => cellIn? header row = cellIn? header' row') rows rows') :
    readGrid policy (header :: rows) = readGrid policy (header' :: rows') := by
  have hnone : ∀ column : Column, lastIndex? column.header header = none ↔
      lastIndex? column.header header' = none := by
    intro column
    rw [lastIndex?_eq_none_iff, lastIndex?_eq_none_iff, hheader]
  have habsent : absentColumns header = absentColumns header' := by
    refine List.filter_congr fun column _ => ?_
    rw [Bool.eq_iff_iff, Option.isNone_iff_eq_none, Option.isNone_iff_eq_none, hnone]
  rw [readGrid, readGrid]
  cases hi : lastIndex? Column.id.header header with
  | none => rw [(hnone .id).1 hi]
  | some i =>
    obtain ⟨i', hi'⟩ : ∃ i', lastIndex? Column.id.header header' = some i' := by
      rw [← Option.ne_none_iff_exists', ne_eq, ← hnone, hi]
      exact Option.some_ne_none i
    rw [hi', habsent]
    simp only [readRows_congr policy hi hi' h]

end Congr

/-! ### Empty cells at the end of a row -/

/-- Two rows have the same cells, as far as these are not empty. -/
def SameCells (row row' : List String) : Prop := ∀ i, cellAt row i = cellAt row' i

namespace SameCells

variable {header header' row row' : List String}

lemma symm (h : SameCells row row') : SameCells row' row := fun i => (h i).symm

lemma cons (cell : String) (h : SameCells row row') : SameCells (cell :: row) (cell :: row') := by
  intro i
  cases i with
  | zero => rfl
  | succ i => exact h i

/-- Empty cells are not told from absent ones. -/
lemma of_forall_eq (h : ∀ cell ∈ row, cell = "") : SameCells row [] := by
  intro i
  rw [cellAt, cellAt, List.getElem?_nil, Option.getD_none]
  cases hcell : row[i]? with
  | none => rfl
  | some cell => exact h cell (List.mem_of_getElem? hcell)

lemma getElem?_eq_some_iff (h : SameCells row row') {word : String} (hword : word ≠ "") (i : ℕ) :
    row[i]? = some word ↔ row'[i]? = some word := by
  have hcell : ∀ r : List String, r[i]? = some word ↔ cellAt r i = word := by
    intro r
    rw [cellAt]
    cases r[i]? with
    | none => simpa using hword.symm
    | some cell => simp
  rw [hcell, hcell, h i]

lemma lastIndex?_eq (h : SameCells header header') {word : String} (hword : word ≠ "") :
    lastIndex? word header = lastIndex? word header' := by
  apply Option.ext
  intro i
  rw [lastIndex?_eq_some_iff, lastIndex?_eq_some_iff, IsLastAt, IsLastAt]
  simp only [h.getElem?_eq_some_iff hword, ne_eq]

lemma cellIn?_eq (hheader : SameCells header header') (hrow : SameCells row row') :
    cellIn? header row = cellIn? header' row' := by
  funext column
  have hname : column.header ≠ "" := by cases column <;> decide
  rw [cellIn?, cellIn?, hheader.lastIndex?_eq hname, funext hrow]

/-- Grids with the same cells are read alike. -/
lemma readGrid_eq (policy : Policy) (hheader : SameCells header header')
    {rows rows' : List (List String)} (hrows : List.Forall₂ SameCells rows rows') :
    readGrid policy (header :: rows) = readGrid policy (header' :: rows') := by
  refine readGrid_congr policy (fun column => ?_)
    (hrows.imp fun _ _ hrow => hheader.cellIn?_eq hrow)
  have hname : column.header ≠ "" := by cases column <;> decide
  rw [List.mem_iff_getElem?, List.mem_iff_getElem?]
  exact exists_congr fun i => hheader.getElem?_eq_some_iff hname i

end SameCells

/-! ### Blanks at the end of a line -/

/-- A text that fills the width is cut without regard to what follows it. -/
lemma cut_append_of_le {width : ℕ} {s : List Char} (hs : s ≠ []) (h : width ≤ byteSize s)
    (rest : List Char) : cut width (s ++ rest) = ((cut width s).1, (cut width s).2 ++ rest) := by
  induction s generalizing width with
  | nil => exact absurd rfl hs
  | cons c s ih =>
    rw [List.cons_append, cut, cut]
    split
    · rfl
    · rename_i hwidth
      rw [byteSize_cons] at h
      have hne : s ≠ [] := by
        rintro rfl
        rw [byteSize_nil] at h
        omega
      rw [ih hne (by omega)]

/-- A text that does not fill the width is cut off with the start of what follows it. -/
lemma cut_append_of_lt {width : ℕ} {s : List Char} (h : byteSize s < width) (rest : List Char) :
    cut width (s ++ rest) =
      (s ++ (cut (width - byteSize s) rest).1, (cut (width - byteSize s) rest).2) := by
  induction s generalizing width with
  | nil => rfl
  | cons c s ih =>
    rw [byteSize_cons] at h
    have hsub : width - c.utf8Size - byteSize s = width - byteSize (c :: s) := by
      rw [byteSize_cons]
      omega
    rw [List.cons_append, cut, if_neg (by omega), ih (by omega), hsub]
    rfl

lemma pieces_eq_cons {line : List Char} (h : line ≠ []) :
    pieces line = (cut cellWidth line).1 :: pieces (cut cellWidth line).2 := by
  obtain ⟨c, rest, rfl⟩ := List.exists_cons_of_ne_nil h
  rw [pieces]

lemma cells_eq_cons {line : List Char} (h : line ≠ []) :
    cells line = String.ofList (Text.trim (cut cellWidth line).1) ::
      cells (cut cellWidth line).2 := by
  rw [cells, pieces_eq_cons h]
  rfl

lemma cells_nil : cells [] = [] := by
  rw [cells, pieces, List.map_nil]

lemma eq_of_mem_cells_of_blank {blanks : List Char} (h : ∀ c ∈ blanks, Text.isBlank c = true)
    {cell : String} (hcell : cell ∈ cells blanks) : cell = "" := by
  obtain ⟨piece, hpiece, rfl⟩ := List.mem_map.1 hcell
  rw [Text.trim_eq_nil_iff.2 fun c hc => h c (mem_of_mem_piece hpiece hc)]

/-- Blanks at the end of a line make no difference to its cells. -/
theorem sameCells_append_blanks (line : List Char) {blanks : List Char}
    (h : ∀ c ∈ blanks, Text.isBlank c = true) :
    SameCells (cells (line ++ blanks)) (cells line) := by
  induction line using pieces.induct with
  | case1 =>
    rw [List.nil_append, cells_nil]
    exact SameCells.of_forall_eq fun cell => eq_of_mem_cells_of_blank h
  | case2 c rest ih =>
    have hne : c :: rest ≠ [] := List.cons_ne_nil c rest
    have hne' : c :: rest ++ blanks ≠ [] := List.append_ne_nil_of_left_ne_nil hne blanks
    rw [cells_eq_cons hne, cells_eq_cons hne']
    rcases Nat.lt_or_ge (byteSize (c :: rest)) cellWidth with hlt | hge
    -- the last piece takes in blanks, and all pieces after it are blank
    · have hcut := cut_append_of_lt hlt []
      rw [List.append_nil] at hcut
      rw [cut_append_of_lt hlt blanks, hcut]
      have hsplit := append_cut (cellWidth - byteSize (c :: rest)) blanks
      have hfront : ∀ d ∈ (cut (cellWidth - byteSize (c :: rest)) blanks).1,
          Text.isBlank d = true := by
        intro d hd
        rw [← hsplit] at h
        exact h d (List.mem_append_left _ hd)
      have hback : ∀ d ∈ (cut (cellWidth - byteSize (c :: rest)) blanks).2,
          Text.isBlank d = true := by
        intro d hd
        rw [← hsplit] at h
        exact h d (List.mem_append_right _ hd)
      have hnil : cut (cellWidth - byteSize (c :: rest)) [] = ([], []) := rfl
      rw [hnil, List.append_nil, Text.trim_append_blanks _ hfront, cells_nil]
      exact SameCells.cons _ (SameCells.of_forall_eq fun cell => eq_of_mem_cells_of_blank hback)
    · rw [cut_append_of_le hne hge]
      exact SameCells.cons _ ih

end NodeDemand.Table
