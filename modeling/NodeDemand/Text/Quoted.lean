/-
# Quoted texts and records

Messages that point at a piece of text show it between double quotes, written so that every
character can be told apart: quotes and backslashes are escaped, the common control characters
have their short escapes, and whatever has no shape of its own is shown by its code point.

Messages that show a whole record give its name, and its fields with their values in braces.
-/
import NodeDemand.Text.Unprintable

namespace NodeDemand.Text

/-- The code point of a character in braces, in lower-case hexadecimal. -/
def codePointEscape (c : Char) : List Char :=
  ['\\', 'u', '{'] ++ Nat.toDigits 16 c.toNat ++ ['}']

/-- A character as a quoted text shows it. -/
def quotedChar (c : Char) : List Char :=
  match c with
  | '\x00' => ['\\', '0']
  | '\t' => ['\\', 't']
  | '\r' => ['\\', 'r']
  | '\n' => ['\\', 'n']
  | '"' => ['\\', '"']
  | '\\' => ['\\', '\\']
  | c => if isGraphemeExtend c || isUnprintable c then codePointEscape c else [c]

/-- A text between double quotes. -/
def quoted (s : List Char) : List Char := '"' :: s.flatMap quotedChar ++ ['"']

/-- A string between double quotes. -/
def quote (s : String) : String := String.ofList (quoted s.toList)

/-- A value that may be missing, as a record shows it. -/
def showOptional (shown : Option String) : String :=
  shown.elim "None" fun value => "Some(" ++ value ++ ")"

/-- A record: its name, and the names of its fields with what their values show. -/
def showRecord (name : String) (fields : List (String × String)) : String :=
  name ++ String.ofList [' ', '{', ' '] ++
    ", ".intercalate (fields.map fun field => field.1 ++ ": " ++ field.2) ++
    String.ofList [' ', '}']

end NodeDemand.Text
