/-
# Escape sequences

A terminal does not show escape sequences: control sequences, which end with a letter or a similar
character, and system commands, which end with a bell or with an escape character and a backslash.
A sequence that does not end hides the rest of the text.  `glyphs` says for every character of a
text whether it is hidden, and hidden characters take no column.

Which characters end a control sequence is a parameter: all that may end one, `endsControl`, or
letters alone.
-/
import NodeDemand.Text.Width

namespace NodeDemand.Text

/-- A character of a text; it is hidden if it belongs to an escape sequence. -/
structure Glyph where
  char : Char
  hidden : Bool
deriving DecidableEq, Repr

/-- Whether a character may end a control sequence. -/
def endsControl (c : Char) : Bool := decide ('\x40' ≤ c) && decide (c ≤ '\x7e')

/-- How far an escape sequence has been read. -/
inductive Escape where
  /-- Not in a sequence. -/
  | none
  /-- After the escape character. -/
  | begun
  /-- In a control sequence. -/
  | control
  /-- In a system command, which a bell ends, or an escape character with a backslash. -/
  | command (escaped : Bool)
deriving DecidableEq, Repr

/-- How far an escape sequence has been read after one more character, if a control sequence ends
with a character that `ends`. -/
def Escape.next (ends : Char → Bool) (state : Escape) (c : Char) : Escape :=
  match state with
  | none => if c = '\x1b' then begun else none
  | begun => if c = '[' then control else if c = ']' then command false else none
  | control => if ends c then none else control
  | command escaped =>
    if c = '\x07' ∨ (c = '\\' ∧ escaped = true) then none else command (c == '\x1b')

/-- The characters of a text, with those of escape sequences hidden. -/
def glyphsFrom (ends : Char → Bool) (state : Escape) : List Char → List Glyph
  | [] => []
  | c :: rest => ⟨c, state != .none || c == '\x1b'⟩ :: glyphsFrom ends (state.next ends c) rest

/-- The characters of a text, with those of escape sequences hidden. -/
def glyphs (ends : Char → Bool) (s : List Char) : List Glyph := glyphsFrom ends .none s

/-- The columns that a character takes. -/
def Glyph.width (g : Glyph) : Nat := if g.hidden then 0 else charWidth g.char

/-- The columns that characters take. -/
def glyphsWidth (gs : List Glyph) : Nat := gs.foldr (fun g n => g.width + n) 0

end NodeDemand.Text
