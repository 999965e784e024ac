/-
# The lines of a text

A line ends at a line feed, and a carriage return just before that line feed belongs to the line
end.  What follows the last line feed is a line of its own unless it is empty.
-/

namespace NodeDemand.Text

/-- A line without the carriage return at its end, both given and returned in reverse order. -/
def dropReturn : List Char → List Char
  | '\r' :: rest => rest
  | line => line

/-- The lines of a text whose first line has begun with `read`, kept in reverse order. -/
def linesFrom (read : List Char) : List Char → List (List Char)
  | [] => if read.isEmpty then [] else [read.reverse]
  | '\n' :: rest => (dropReturn read).reverse :: linesFrom [] rest
  | c :: rest => linesFrom (c :: read) rest

/-- The lines of a text. -/
def lines (s : List Char) : List (List Char) := linesFrom [] s

/-- The parts of a text between the occurrences of a separator; there is one more part than
there are separators. -/
def splitAt (sep : Char) : List Char → List (List Char)
  | [] => [[]]
  | c :: rest =>
    if c = sep then [] :: splitAt sep rest
    else match splitAt sep rest with
      | [] => [[c]]
      | part :: parts => (c :: part) :: parts

/-- Parts joined by a separator. -/
def joinWith (sep : List Char) : List (List Char) → List Char
  | [] => []
  | [part] => part
  | part :: parts => part ++ sep ++ joinWith sep parts

end NodeDemand.Text
