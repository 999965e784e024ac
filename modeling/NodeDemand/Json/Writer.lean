/-
# Writing JSON

A value is written over several lines.  Every element and every member has a line of its own, by
two spaces further in than the line that opens the array or object; an array or object without
any is written on one line.
-/
import NodeDemand.Json.Basic
import NodeDemand.Text.Decimal
import NodeDemand.Text.Lines

namespace NodeDemand.Json

/-- The hexadecimal code point of a character below `0x100`, with four digits. -/
def fourDigits (c : Char) : List Char :=
  ['0', '0', Nat.digitChar (c.toNat / 16), Nat.digitChar (c.toNat % 16)]

/-- A character in a string: quotes, backslashes and control characters are escaped. -/
def writeChar (c : Char) : List Char :=
  match c with
  | '"' => ['\\', '"']
  | '\\' => ['\\', '\\']
  | '\x08' => ['\\', 'b']
  | '\x0c' => ['\\', 'f']
  | '\n' => ['\\', 'n']
  | '\r' => ['\\', 'r']
  | '\t' => ['\\', 't']
  | c => if c.toNat < 0x20 then '\\' :: 'u' :: fourDigits c else [c]

/-- A string between quotes. -/
def writeText (s : String) : List Char := '"' :: s.toList.flatMap writeChar ++ ['"']

/-- An integer. -/
def writeInteger (n : Int) : List Char :=
  if n < 0 then '-' :: Decimal.write n.natAbs else Decimal.write n.toNat

/-- The start of a line at a depth. -/
def lineStart (depth : Nat) : List Char := '\n' :: List.replicate (2 * depth) ' '

/-- Parts in brackets, each on a line of its own. -/
def inBrackets (opening closing : Char) (depth : Nat) (parts : List (List Char)) : List Char :=
  if parts.isEmpty then [opening, closing]
  else
    opening :: Text.joinWith [','] (parts.map (lineStart (depth + 1) ++ ·)) ++
      lineStart depth ++ [closing]

mutual

/-- A value at a depth. -/
def writeAt (depth : Nat) : Json → List Char
  | .null => ['n', 'u', 'l', 'l']
  | .boolean b => if b then ['t', 'r', 'u', 'e'] else ['f', 'a', 'l', 's', 'e']
  | .integer n => writeInteger n
  | .fractional => ['0', '.', '0']
  | .text s => writeText s
  | .array elements => inBrackets '[' ']' depth (writeElements (depth + 1) elements)
  | .object members => inBrackets '{' '}' depth (writeMembers (depth + 1) members)

/-- The elements of an array. -/
def writeElements (depth : Nat) : List Json → List (List Char)
  | [] => []
  | v :: rest => writeAt depth v :: writeElements depth rest

/-- The members of an object. -/
def writeMembers (depth : Nat) : List (String × Json) → List (List Char)
  | [] => []
  | m :: rest => writeMember depth m :: writeMembers depth rest

/-- A member of an object. -/
def writeMember (depth : Nat) : String × Json → List Char
  | (name, v) => writeText name ++ ':' :: ' ' :: writeAt depth v

end

/-- The text of a value. -/
def write (v : Json) : String := String.ofList (writeAt 0 v)

end NodeDemand.Json
