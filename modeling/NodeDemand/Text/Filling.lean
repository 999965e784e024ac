/-
# Filling lines

A paragraph is cut into words, and as many words are put on a line as fit.  A word begins where a
line may begin; a word with hyphens between letters may also be cut behind each of these; and a
word that is too long for a line is cut where the line is full.  The spaces at the end of a line
are left out, all other characters are kept, and line feeds end lines.

Escape sequences take no column.  They belong to the word of the character that follows them.
-/
import NodeDemand.Text.Alphanumeric
import NodeDemand.Text.Escape
import NodeDemand.Text.LineBreak
import NodeDemand.Text.Lines

namespace NodeDemand.Text

/-! ### Words -/

/-- Whether a character is a hyphen, behind which words are cut by a rule of their own or not at
all. -/
def isHyphen (c : Char) : Bool := c == '-' || c == '\u00ad'

/-- Marks with the last one that is set cleared. -/
def clearLast (marks : List Bool) : List Bool :=
  match marks with
  | [] => []
  | mark :: rest => if rest.contains true then mark :: clearLast rest else false :: rest

/-- Whether a word may begin at each visible character: where a line may begin, but not behind a
hyphen.  If a hyphen ends the text, its last word is not told apart from the word before. -/
def wordStarts (visible : List Char) : List Bool :=
  let starts :=
    (breaks visible).zipWith (fun allowed before => allowed && !isHyphen before) (' ' :: visible)
  if visible.getLast?.any isHyphen then clearLast starts else starts

/-- Gives every character the mark whether a word begins there.  The marks are for the visible
characters; the mark of one that follows hidden characters goes to the first of these. -/
def markStarts (inSequence : Bool) : List Glyph → List Bool → List (Glyph × Bool)
  | [], _ => []
  | g :: gs, marks =>
    if g.hidden then (g, !inSequence && marks.headD false) :: markStarts true gs marks
    else (g, !inSequence && marks.headD false) :: markStarts false gs marks.tail

/-- Characters cut before each one that is marked. -/
def cutAtMarks : List (Glyph × Bool) → List (List Glyph)
  | [] => []
  | (g, _) :: rest =>
    match rest, cutAtMarks rest with
    | (_, false) :: _, part :: parts => (g :: part) :: parts
    | _, parts => [g] :: parts

/-- The characters of a line that are not hidden. -/
def visible (line : List Glyph) : List Char := (line.filter (!·.hidden)).map Glyph.char

/-- The words of a line, each with the spaces behind it. -/
def wordsOf (line : List Glyph) : List (List Glyph) :=
  cutAtMarks (markStarts false line (wordStarts (visible line)))

/-- A word with the spaces behind it. -/
structure Word where
  body : List Glyph
  spaces : List Glyph
deriving DecidableEq, Repr

/-- The word that characters make up. -/
def Word.ofGlyphs (gs : List Glyph) : Word :=
  ⟨(gs.reverse.dropWhile (·.char == ' ')).reverse, (gs.reverse.takeWhile (·.char == ' ')).reverse⟩

/-- Characters cut behind each hyphen that stands between a letter or digit `before` it, if that
is one, and another. -/
def cutAtHyphens (before : Bool) : List Glyph → List (List Glyph)
  | [] => []
  | g :: rest =>
    let cutHere := before && g.char == '-' && (rest.head?.any fun next => isAlphanumeric next.char)
    match cutHere, cutAtHyphens (isAlphanumeric g.char) rest with
    | false, part :: parts => (g :: part) :: parts
    | _, parts => [g] :: parts

/-- Characters cut where the columns of a line are full; `used` columns are taken already. -/
def cutAtWidth (columns used : Nat) : List Glyph → List (List Glyph)
  | [] => []
  | g :: rest =>
    let full := !g.hidden && decide (0 < used) && decide (columns < used + g.width)
    let used := if full then g.width else used + g.width
    match rest, cutAtWidth columns used rest with
    | [], _ => if full then [[], [g]] else [[g]]
    | _ :: _, part :: parts => if full then [] :: (g :: part) :: parts else (g :: part) :: parts
    | _ :: _, [] => [[g]]

/-- The parts of a word, of which only the last has spaces behind it. -/
def Word.split (parts : List (List Glyph)) (spaces : List Glyph) : List Word :=
  match parts.getLast? with
  | none => [⟨[], spaces⟩]
  | some last => parts.dropLast.map (⟨·, []⟩) ++ [⟨last, spaces⟩]

/-- A word cut behind its hyphens. -/
def Word.cutHyphens (word : Word) : List Word :=
  Word.split (cutAtHyphens false word.body) word.spaces

/-- A word cut so that every part fits on a line. -/
def Word.cutLong (columns : Nat) (word : Word) : List Word :=
  if columns < glyphsWidth word.body then Word.split (cutAtWidth columns 0 word.body) word.spaces
  else [word]

/-- The words of a line, cut so that every one fits on a line. -/
def fittingWords (columns : Nat) (line : List Glyph) : List Word :=
  (((wordsOf line).map Word.ofGlyphs).flatMap Word.cutHyphens).flatMap (Word.cutLong columns)

/-! ### Lines -/

/-- Puts words on lines, as many on each as fit.  The line under way holds the words `line`, in
reverse order, on `used` columns. -/
def placeWords (columns : Nat) (line : List Word) (used : Nat) : List Word → List (List Word)
  | [] => [line.reverse]
  | word :: rest =>
    let size := glyphsWidth word.body
    if !line.isEmpty && decide (columns < used + size) then
      line.reverse :: placeWords columns [word] (size + word.spaces.length) rest
    else placeWords columns (word :: line) (used + size + word.spaces.length) rest

/-- The text of the words of a line, without the spaces at its end. -/
def lineText (line : List Word) : List Char :=
  let whole := line.dropLast.flatMap fun word => word.body ++ word.spaces
  (whole ++ (line.getLast?.elim [] Word.body)).map Glyph.char

/-- One line of a text, filled into lines of at most so many columns. -/
def fillLine (columns : Nat) (line : List Char) : List (List Char) :=
  (placeWords columns [] 0 (fittingWords columns (glyphs endsControl line))).map lineText

/-- A text, filled into lines of at most so many columns. -/
def fill (columns : Nat) (s : List Char) : List Char :=
  joinWith ['\n'] ((splitAt '\n' s).flatMap (fillLine columns))

/-! ### Scripts without spaces -/

/-- The scripts of a text in which words cannot be found, in order.  A line that has fewer bytes
than there are columns fits as it is, and no words are looked for in it. -/
def unsegmented (columns : Nat) (s : List Char) : List UnspacedScript :=
  (splitAt '\n' s).flatMap fun line =>
    if (String.ofList line).utf8ByteSize < columns then []
    else unspacedRuns ((visible (glyphs endsControl line)).map breakClass)

end NodeDemand.Text
