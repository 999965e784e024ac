/-
# Where a text stops following its grammar

A reader that refuses a text says what it expected and shows the rest of the text from that point
on.  A numeral that is too large is well formed, so it is reported as a different kind of error,
with the text from the numeral on.
-/
import NodeDemand.Text.Decimal
import NodeDemand.Text.Quoted

namespace NodeDemand

/-- What a reader expects next. -/
inductive Expected where
  /-- At least one character of a name. -/
  | name
  /-- The colon between a name and its count. -/
  | colon
  /-- At least one digit. -/
  | digits
  /-- The end of the text. -/
  | ending
deriving DecidableEq, Repr

/-- The word for what is expected. -/
def Expected.word : Expected → String
  | name => "TakeWhile1"
  | colon => "Char"
  | digits => "Digit"
  | ending => "Eof"

/-- Why a text is not in a grammar. -/
inductive SyntaxError where
  /-- The text `rest` does not begin with what is expected. -/
  | expected (what : Expected) (rest : List Char)
  /-- The numeral at the start of `rest` does not fit into 64 bits. -/
  | tooLarge (rest : List Char)
deriving DecidableEq, Repr

/-- The wording of a syntax error. -/
def SyntaxError.message : SyntaxError → String
  | expected what rest =>
    "Parser error at '" ++ String.ofList (Text.quoted rest) ++ "': expecting " ++ what.word
  | tooLarge rest =>
    "Semantic error at '" ++ String.ofList rest ++ "': " ++ Decimal.CountError.tooLarge.message

/-- The count at the start of a text, as its longest run of digits, and the text after it. -/
def takeCount (s : List Char) : Except SyntaxError (UInt64 × List Char) :=
  let digits := s.takeWhile Char.isDigit
  if digits.isEmpty then .error (.expected .digits s)
  else match Decimal.count? digits with
    | none => .error (.tooLarge s)
    | some n => .ok (n, s.dropWhile Char.isDigit)

/-- A text that is a count and nothing else. -/
def readCount (s : List Char) : Except SyntaxError UInt64 :=
  match takeCount s with
  | .error e => .error e
  | .ok (n, rest) => if rest.isEmpty then .ok n else .error (.expected .ending rest)

end NodeDemand
