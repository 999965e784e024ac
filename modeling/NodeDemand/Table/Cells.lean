/-
# Cells of a fixed-width line

Every column is as wide as every other, counted in bytes of UTF-8.  A line is cut into pieces of
that width; a character that crosses the border of a column stays whole in the column where it
starts, so a piece may be up to three bytes longer.  The cells are the pieces without the blanks
around them.  `flatten_pieces` says that cutting loses nothing.
-/
import NodeDemand.Text.Blank

namespace NodeDemand.Table

/-- The width of every column in bytes. -/
def cellWidth : Nat := 200

/-- The shortest part of a text that has at least `width` bytes, and the text after it.  The part
is all of the text if that is no longer. -/
def cut (width : Nat) : List Char → List Char × List Char
  | [] => ([], [])
  | c :: rest =>
    if width ≤ c.utf8Size then ([c], rest)
    else
      let (front, back) := cut (width - c.utf8Size) rest
      (c :: front, back)

theorem append_cut (width : Nat) (s : List Char) : (cut width s).1 ++ (cut width s).2 = s := by
  induction s generalizing width with
  | nil => rfl
  | cons c rest ih =>
    rw [cut]
    split
    · rfl
    · simp [ih]

theorem length_cut_lt (width : Nat) (c : Char) (rest : List Char) :
    (cut width (c :: rest)).2.length < (c :: rest).length := by
  rw [cut]
  split
  · simp
  · have h := congrArg List.length (append_cut (width - c.utf8Size) rest)
    rw [List.length_append] at h
    simp only [List.length_cons]
    omega

/-- The pieces of a line. -/
def pieces (line : List Char) : List (List Char) :=
  match line with
  | [] => []
  | c :: rest => (cut cellWidth (c :: rest)).1 :: pieces (cut cellWidth (c :: rest)).2
termination_by line.length
decreasing_by exact length_cut_lt cellWidth c rest

/-- The pieces of a line, one after the other, are the line. -/
theorem flatten_pieces (line : List Char) : (pieces line).flatten = line := by
  induction line using pieces.induct with
  | case1 => simp [pieces]
  | case2 c rest ih => rw [pieces, List.flatten_cons, ih, append_cut]

/-- The cells of a line. -/
def cells (line : List Char) : List String :=
  (pieces line).map fun piece => String.ofList (Text.trim piece)

end NodeDemand.Table
