/-
# How a line is cut

A line is cut in rounds.  A round takes the first piece of what is left of the line: its end is
the first boundary between two characters that is not before the end of the column, or the end of
the line if that comes first (`Round`).  There is exactly one way to cut a line to the end, and it
gives the pieces (`cutInto_iff`), so whatever is kept from round to round holds of the pieces.

`cells_cut` collects what is known about the pieces and about the cells in them.  If no character
crosses the border of a column, the pieces are the bytes from border to border
(`CutInto.decode_column`).
-/
import NodeDemand.Proofs.Table.Layout
import NodeDemand.Proofs.Text.WellFormed
import Mathlib.Algebra.Order.Floor.Div
import Mathlib.Order.Bounds.Basic

namespace NodeDemand.Table

/-! ### Boundaries -/

/-- The first `n` bytes of a text are the bytes of whole characters. -/
def IsBoundary (text : List Char) (n : ℕ) : Prop :=
  String.Pos.Raw.IsValid (String.ofList text) ⟨n⟩

lemma utf8ByteSize_ofList (s : List Char) : (String.ofList s).utf8ByteSize = byteSize s := by
  induction s with
  | nil => rfl
  | cons c s ih =>
    have hcons : String.ofList (c :: s) = String.singleton c ++ String.ofList s := by
      rw [String.singleton_eq_ofList, ← String.ofList_append, List.singleton_append]
    rw [hcons, String.utf8ByteSize_append, String.utf8ByteSize_singleton, ih, byteSize_cons]

/-- The boundaries of a text are the sizes of its beginnings. -/
lemma isBoundary_iff {text : List Char} {n : ℕ} :
    IsBoundary text n ↔ ∃ front, front <+: text ∧ byteSize front = n := by
  rw [IsBoundary, String.Pos.Raw.isValid_iff_exists_append]
  constructor
  · rintro ⟨front, back, happend, hsize⟩
    refine ⟨front.toList, ⟨back.toList, ?_⟩, ?_⟩
    · rw [← String.toList_append, ← happend, String.toList_ofList]
    · rw [← utf8ByteSize_ofList, String.ofList_toList]
      exact (congrArg String.Pos.Raw.byteIdx hsize).symm
  · rintro ⟨front, ⟨back, rfl⟩, rfl⟩
    refine ⟨String.ofList front, String.ofList back, String.ofList_append, ?_⟩
    rw [← utf8ByteSize_ofList]
    rfl

lemma byteSize_eq_zero_iff {s : List Char} : byteSize s = 0 ↔ s = [] := by
  constructor
  · intro h
    cases s with
    | nil => rfl
    | cons c s =>
      have hc := c.utf8Size_pos
      rw [byteSize_cons] at h
      omega
  · rintro rfl
    rfl

/-- Of two beginnings of a text the one that is not larger is the beginning of the other. -/
lemma prefix_of_byteSize_le {front front' text : List Char} (h : front <+: text)
    (h' : front' <+: text) (hsize : byteSize front ≤ byteSize front') : front <+: front' := by
  rcases List.prefix_or_prefix_of_prefix h h' with hprefix | ⟨more, rfl⟩
  · exact hprefix
  · rw [byteSize_append] at hsize
    rw [byteSize_eq_zero_iff.1 (by omega : byteSize more = 0), List.append_nil]

lemma isBoundary_append {piece rest : List Char} {n : ℕ}
    (h : IsBoundary (piece ++ rest) (byteSize piece + n)) : IsBoundary rest n := by
  obtain ⟨front, hfront, hsize⟩ := isBoundary_iff.1 h
  obtain ⟨more, rfl⟩ := prefix_of_byteSize_le (List.prefix_append piece rest) hfront (by omega)
  rw [byteSize_append] at hsize
  exact isBoundary_iff.2 ⟨more, (List.prefix_append_right_inj piece).1 hfront, by omega⟩

/-! ### The first piece -/

section Cut

variable {width : ℕ} {text : List Char}

lemma cut_prefix (width : ℕ) (text : List Char) : (cut width text).1 <+: text :=
  ⟨(cut width text).2, append_cut width text⟩

lemma min_le_byteSize_cut (width : ℕ) (text : List Char) :
    min width (byteSize text) ≤ byteSize (cut width text).1 := by
  induction text generalizing width with
  | nil => exact min_le_right _ _
  | cons c rest ih =>
    have hrest := ih (width - c.utf8Size)
    rw [byteSize_cons, cut]
    split
    · simp only [byteSize_cons, byteSize_nil]
      omega
    · simp only [byteSize_cons]
      omega

/-- The character that crosses the end of the column has at most four bytes, one of them in the
column. -/
lemma byteSize_cut_le (hwidth : 0 < width) (text : List Char) :
    byteSize (cut width text).1 ≤ width + 3 := by
  induction text generalizing width with
  | nil => exact Nat.zero_le _
  | cons c rest ih =>
    have hc := c.utf8Size_le_four
    rw [cut]
    split
    · simp only [byteSize_cons, byteSize_nil]
      omega
    · have hrest := ih (show 0 < width - c.utf8Size by omega)
      simp only [byteSize_cons]
      omega

/-- No beginning that fills the column is smaller. -/
lemma byteSize_cut_le_of_prefix (hwidth : 0 < width) {front : List Char} (hfront : front <+: text)
    (hsize : min width (byteSize text) ≤ byteSize front) :
    byteSize (cut width text).1 ≤ byteSize front := by
  induction text generalizing width front with
  | nil => exact Nat.zero_le _
  | cons c rest ih =>
    have hc := c.utf8Size_pos
    rcases List.prefix_cons_iff.1 hfront with rfl | ⟨more, rfl, hmore⟩
    · rw [byteSize_cons, byteSize_nil] at hsize
      omega
    · rw [byteSize_cons, byteSize_cons] at hsize
      rw [cut]
      split
      · simp only [byteSize_cons, byteSize_nil]
        omega
      · have hrest := ih (show 0 < width - c.utf8Size by omega) hmore (by omega)
        simp only [byteSize_cons]
        omega

/-- The cut is at the first boundary that is not before the end of the column or of the text. -/
lemma isLeast_byteSize_cut (hwidth : 0 < width) (text : List Char) :
    IsLeast {n | min width (byteSize text) ≤ n ∧ IsBoundary text n}
      (byteSize (cut width text).1) := by
  refine ⟨⟨min_le_byteSize_cut width text, isBoundary_iff.2 ⟨_, cut_prefix width text, rfl⟩⟩, ?_⟩
  rintro n ⟨hn, hboundary⟩
  obtain ⟨front, hfront, rfl⟩ := isBoundary_iff.1 hboundary
  exact byteSize_cut_le_of_prefix hwidth hfront hn

end Cut

/-! ### Rounds -/

/-- A round of cutting takes a piece from the start of a text.  The piece ends at the first boundary
that is not before the end of the column or of the text. -/
structure Round (text piece rest : List Char) : Prop where
  /-- There is something to be cut. -/
  text_ne_nil : text ≠ []
  /-- Nothing is lost, and nothing occurs twice. -/
  append_eq : piece ++ rest = text
  /-- The search for the boundary starts at the end of the column or of the text. -/
  isLeast : IsLeast {n | min cellWidth (byteSize text) ≤ n ∧ IsBoundary text n} (byteSize piece)

/-- A text is cut into pieces, round after round, until nothing is left. -/
inductive CutInto : List Char → List (List Char) → Prop
  | done : CutInto [] []
  | round {text piece rest : List Char} {parts : List (List Char)} (h : Round text piece rest)
      (hrest : CutInto rest parts) : CutInto text (piece :: parts)

lemma cellWidth_pos : 0 < cellWidth := by decide

lemma round_cut {text : List Char} (h : text ≠ []) :
    Round text (cut cellWidth text).1 (cut cellWidth text).2 :=
  ⟨h, append_cut cellWidth text, isLeast_byteSize_cut cellWidth_pos text⟩

namespace Round

variable {text piece rest : List Char}

lemma piece_prefix (h : Round text piece rest) : piece <+: text := ⟨rest, h.append_eq⟩

/-- There is one way only to take a piece. -/
lemma eq_cut (h : Round text piece rest) : cut cellWidth text = (piece, rest) := by
  have hcut := round_cut h.text_ne_nil
  have hsize := h.isLeast.unique hcut.isLeast
  have hfront : piece = (cut cellWidth text).1 := by
    have hforth := prefix_of_byteSize_le h.piece_prefix hcut.piece_prefix hsize.le
    have hback := prefix_of_byteSize_le hcut.piece_prefix h.piece_prefix hsize.ge
    exact hforth.eq_of_length_le hback.length_le
  have hboth : piece ++ rest = piece ++ (cut cellWidth text).2 := by
    conv_rhs => rw [hfront]
    rw [h.append_eq, hcut.append_eq]
  exact Prod.ext hfront.symm (List.append_cancel_left hboth).symm

lemma piece_ne_nil (h : Round text piece rest) : piece ≠ [] := by
  rintro rfl
  have hpos : byteSize text ≠ 0 := mt byteSize_eq_zero_iff.1 h.text_ne_nil
  have hleast := h.isLeast.1.1
  have hwidth := cellWidth_pos
  rw [byteSize_nil] at hleast
  omega

lemma byteSize_le (h : Round text piece rest) : byteSize piece ≤ cellWidth + 3 := by
  have hle := byteSize_cut_le cellWidth_pos text
  rwa [h.eq_cut] at hle

/-- A piece that does not fill its column is all that was left. -/
lemma cellWidth_le (h : Round text piece rest) (hrest : rest ≠ []) :
    cellWidth ≤ byteSize piece := by
  have hleast := h.isLeast.1.1
  have hpos : byteSize rest ≠ 0 := mt byteSize_eq_zero_iff.1 hrest
  rw [← h.append_eq, byteSize_append] at hleast
  omega

/-- Every beginning of the text that fills the column begins with the piece. -/
lemma prefix_of_le (h : Round text piece rest) {front : List Char} (hfront : front <+: text)
    (hsize : cellWidth ≤ byteSize front) : piece <+: front := by
  refine prefix_of_byteSize_le h.piece_prefix hfront (h.isLeast.2 ⟨?_, ?_⟩)
  · exact (min_le_left _ _).trans hsize
  · exact isBoundary_iff.2 ⟨front, hfront, rfl⟩

/-- A piece that ends at the border of its column is as large as the column. -/
lemma byteSize_eq (h : Round text piece rest) (hsize : cellWidth ≤ byteSize text)
    (hborder : IsBoundary text cellWidth) : byteSize piece = cellWidth := by
  have hleast := h.isLeast.1.1
  have hle := h.isLeast.2 ⟨min_le_left _ _, hborder⟩
  omega

end Round

lemma cutInto_pieces (line : List Char) : CutInto line (pieces line) := by
  induction line using pieces.induct with
  | case1 =>
    rw [pieces]
    exact .done
  | case2 c rest ih =>
    rw [pieces]
    exact .round (round_cut (List.cons_ne_nil c rest)) ih

namespace CutInto

variable {line : List Char} {parts : List (List Char)}

lemma eq_pieces (h : CutInto line parts) : parts = pieces line := by
  induction h with
  | done => rw [pieces]
  | round h _ ih => rw [pieces_eq_cons h.text_ne_nil, h.eq_cut, ih]

lemma flatten_eq (h : CutInto line parts) : parts.flatten = line := by
  induction h with
  | done => rfl
  | round h _ ih => rw [List.flatten_cons, ih, h.append_eq]

/-- Every piece was taken in a round, from the pieces that were left. -/
lemma exists_round (h : CutInto line parts) {before after : List (List Char)} {piece : List Char}
    (hparts : parts = before ++ piece :: after) :
    Round (piece :: after).flatten piece after.flatten := by
  induction h generalizing before with
  | done => exact absurd hparts (by simp)
  | round h hrest ih =>
    cases before with
    | nil =>
      obtain ⟨rfl, rfl⟩ := List.cons.inj hparts
      rw [List.flatten_cons, hrest.flatten_eq, h.append_eq]
      exact h
    | cons first before => exact ih (List.cons.inj hparts).2

/-- Every round but the last one uses up a column. -/
lemma length_le_of_byteSize_le (h : CutInto line parts) {n : ℕ}
    (hsize : byteSize line ≤ cellWidth * n) : parts.length ≤ n := by
  induction h generalizing n with
  | done => exact Nat.zero_le n
  | @round text piece rest parts h hrest ih =>
    have hpos : byteSize text ≠ 0 := mt byteSize_eq_zero_iff.1 h.text_ne_nil
    cases n with
    | zero => omega
    | succ n =>
      have htext : byteSize piece + byteSize rest = byteSize text := by
        rw [← byteSize_append, h.append_eq]
      have hbytes : byteSize rest ≤ cellWidth * n := by
        by_cases hnil : rest = []
        · rw [hnil]
          exact Nat.zero_le _
        · have hfull := h.cellWidth_le hnil
          rw [Nat.mul_succ] at hsize
          omega
      exact Nat.succ_le_succ (ih hbytes)

end CutInto

/-- There is exactly one way to cut a line. -/
lemma cutInto_iff {line : List Char} {parts : List (List Char)} :
    CutInto line parts ↔ parts = pieces line :=
  ⟨CutInto.eq_pieces, fun h => h ▸ cutInto_pieces line⟩

/-! ### Lines without characters across borders -/

/-- The bytes of a line in its column `k`. -/
def columnBytes (line : List Char) (k : ℕ) : List UInt8 :=
  ((Utf8.encode (String.ofList line)).drop (cellWidth * k)).take cellWidth

lemma encode_append (s t : List Char) : Utf8.encode (String.ofList (s ++ t)) =
    Utf8.encode (String.ofList s) ++ Utf8.encode (String.ofList t) := by
  simp only [Utf8.encode_eq_flatMap, String.toList_ofList, List.flatMap_append]

lemma length_encode (s : List Char) :
    (Utf8.encode (String.ofList s)).length = byteSize s := by
  rw [Utf8.encode_eq_flatMap, String.toList_ofList]
  induction s with
  | nil => rfl
  | cons c s ih =>
    rw [List.flatMap_cons, List.length_append, String.length_utf8EncodeChar, ih, byteSize_cons]

lemma columnBytes_zero {piece rest : List Char} (h : byteSize piece = cellWidth) :
    columnBytes (piece ++ rest) 0 = Utf8.encode (String.ofList piece) := by
  rw [columnBytes, Nat.mul_zero, List.drop_zero, encode_append,
    List.take_left' ((length_encode piece).trans h)]

lemma columnBytes_succ {piece rest : List Char} (h : byteSize piece = cellWidth) (k : ℕ) :
    columnBytes (piece ++ rest) (k + 1) = columnBytes rest k := by
  rw [columnBytes, encode_append, Nat.mul_succ, Nat.add_comm, ← List.drop_drop,
    List.drop_left' ((length_encode piece).trans h)]
  rfl

lemma columnBytes_of_le {line : List Char} (h : byteSize line ≤ cellWidth) :
    columnBytes line 0 = Utf8.encode (String.ofList line) := by
  rw [columnBytes, Nat.mul_zero, List.drop_zero,
    List.take_of_length_le ((length_encode line).trans_le h)]

/-- If no character crosses the border of a column, the bytes of a column are a piece. -/
lemma CutInto.decode_column {line : List Char} {parts : List (List Char)}
    (h : CutInto line parts)
    (hborders : ∀ k, cellWidth * k < byteSize line → IsBoundary line (cellWidth * k)) {k : ℕ}
    (hk : cellWidth * k < byteSize line) :
    ∃ piece, Utf8.decode (columnBytes line k) = .ok piece ∧ parts[k]? = some piece := by
  induction h generalizing k with
  | done => exact absurd hk (Nat.not_lt_zero _)
  | @round text piece rest parts h _ ih =>
    have htext : byteSize piece + byteSize rest = byteSize text := by
      rw [← byteSize_append, h.append_eq]
    -- a piece with something after it ends at the border of the column
    have hborder : cellWidth < byteSize text → byteSize piece = cellWidth := fun hlt =>
      h.byteSize_eq hlt.le (by simpa using hborders 1 (by simpa using hlt))
    cases k with
    | zero =>
      refine ⟨piece, Utf8.decode_eq_ok_iff.2 ?_, rfl⟩
      rcases Nat.lt_or_ge cellWidth (byteSize text) with hlt | hle
      · rw [← h.append_eq, columnBytes_zero (hborder hlt)]
      · have hnil : rest = [] := by
          by_contra hrest
          have hfull := h.cellWidth_le hrest
          have hpos : byteSize rest ≠ 0 := mt byteSize_eq_zero_iff.1 hrest
          omega
        rw [columnBytes_of_le hle, ← h.append_eq, hnil, List.append_nil]
    | succ k =>
      rw [Nat.mul_succ] at hk
      have hpiece := hborder (by omega)
      rw [← h.append_eq, columnBytes_succ hpiece]
      have hrest : ∀ j, cellWidth * j < byteSize rest → IsBoundary rest (cellWidth * j) := by
        intro j hj
        have hsum : byteSize piece + cellWidth * j = cellWidth * (j + 1) := by
          rw [hpiece, Nat.mul_succ, Nat.add_comm]
        refine @isBoundary_append piece rest _ ?_
        rw [h.append_eq, hsum]
        exact hborders (j + 1) (by omega)
      exact ih hrest (by omega)

/-- **Cutting loses nothing and splits no character.**  There is exactly one way to cut a line in
rounds, and the pieces that it gives, one after the other, are the line.  No piece is empty or more
than three bytes larger than a column.  A piece before the last one fills its column and is the
shortest beginning of what is left of the line that does so.  The cells are the pieces without
the blanks around them, so there is at most one for every column that the bytes of the line
begin.  If no character crosses the border of a column, the cells are what the columns hold. -/
theorem cells_cut (line : List Char) :
    (∀ parts, CutInto line parts ↔ parts = pieces line) ∧
    (pieces line).flatten = line ∧
    (∀ piece ∈ pieces line, piece ≠ [] ∧ byteSize piece ≤ cellWidth + 3) ∧
    (∀ before piece after, pieces line = before ++ piece :: after → after ≠ [] →
      cellWidth ≤ byteSize piece ∧
      ∀ front, front <+: (piece :: after).flatten → cellWidth ≤ byteSize front →
        piece <+: front) ∧
    cells line = (pieces line).map (fun piece => String.ofList (Text.trim piece)) ∧
    (cells line).length ≤ byteSize line ⌈/⌉ cellWidth ∧
    ((∀ k, cellWidth * k < byteSize line → IsBoundary line (cellWidth * k)) →
      ∀ k, cellWidth * k < byteSize line →
        ∃ text, Utf8.decode (columnBytes line k) = .ok text ∧
          (cells line)[k]? = some (String.ofList (Text.trim text))) := by
  have hcut := cutInto_pieces line
  refine ⟨fun parts => cutInto_iff, flatten_pieces line, ?_, ?_, rfl, ?_, ?_⟩
  · intro piece hpiece
    obtain ⟨before, after, hparts⟩ := List.append_of_mem hpiece
    have hround := hcut.exists_round hparts
    exact ⟨hround.piece_ne_nil, hround.byteSize_le⟩
  · intro before piece after hparts hafter
    have hround := hcut.exists_round hparts
    have hrest : after.flatten ≠ [] := by
      obtain ⟨next, more, rfl⟩ := List.exists_cons_of_ne_nil hafter
      have hnext : pieces line = (before ++ [piece]) ++ next :: more := by
        rw [hparts, List.append_assoc, List.singleton_append]
      exact (hcut.exists_round hnext).text_ne_nil
    exact ⟨hround.cellWidth_le hrest, fun front hfront hsize => hround.prefix_of_le hfront hsize⟩
  · rw [cells, List.length_map]
    exact hcut.length_le_of_byteSize_le ((ceilDiv_le_iff_le_mul cellWidth_pos).1 le_rfl)
  · intro hborders k hk
    obtain ⟨piece, hdecode, hpiece⟩ := hcut.decode_column hborders hk
    refine ⟨piece, hdecode, ?_⟩
    rw [cells, List.getElem?_map, hpiece]
    rfl

/-- A line of characters of two bytes each, of which a hundred fill a column. -/
def accentedLine : List Char := List.replicate 150 'é'

/-- The second cell of that line holds the characters after the first hundred. -/
theorem cells_cut_accentedLine :
    (∀ k, cellWidth * k < byteSize accentedLine → IsBoundary accentedLine (cellWidth * k)) ∧
    cellWidth * 1 < byteSize accentedLine ∧
    Utf8.decode (columnBytes accentedLine 1) = .ok (List.replicate 50 'é') ∧
    (cells accentedLine)[1]? = some (String.ofList (List.replicate 50 'é')) := by
  have hborders : ∀ k, cellWidth * k < byteSize accentedLine →
      IsBoundary accentedLine (cellWidth * k) := by
    intro k hk
    have hsize : byteSize accentedLine = 300 := by decide +kernel
    rw [hsize, cellWidth] at hk
    have hcases : k = 0 ∨ k = 1 := by omega
    rcases hcases with rfl | rfl
    · exact isBoundary_iff.2 ⟨[], List.nil_prefix, rfl⟩
    · refine isBoundary_iff.2 ⟨List.replicate 100 'é', ?_, by decide +kernel⟩
      exact ⟨List.replicate 50 'é', by decide +kernel⟩
  have hcolumn : cellWidth * 1 < byteSize accentedLine := by decide +kernel
  have hbytes : Utf8.decode (columnBytes accentedLine 1) = .ok (List.replicate 50 'é') := by
    decide +kernel
  obtain ⟨text, htext, hcell⟩ :=
    (cells_cut accentedLine).2.2.2.2.2.2 hborders 1 hcolumn
  obtain rfl := Except.ok.inj (hbytes.symm.trans htext)
  refine ⟨hborders, hcolumn, hbytes, hcell.trans ?_⟩
  decide +kernel

end NodeDemand.Table
