/-
# Keys, strings and numbers of a document

Every reader takes a part from the start of a text and gives it with the text that follows, or
nothing if the text does not start with such a part.
-/

namespace NodeDemand.Toml

/-- Takes a fixed text. -/
def takeWord : List Char → List Char → Option (List Char)
  | [], s => some s
  | c :: word, d :: s => if c = d then takeWord word s else none
  | _ :: _, [] => none

/-- The text after spaces and tabs. -/
def skipSpaces (s : List Char) : List Char := s.dropWhile fun c => c == ' ' || c == '\t'

/-- Whether a character may stand in a comment or in a string: all but the control characters
other than the tab. -/
def isContentChar (c : Char) : Bool := c == '\t' || (decide (0x20 ≤ c.toNat) && c.toNat != 0x7F)

/-- The text after a comment, if there is one. -/
def skipComment : List Char → List Char
  | '#' :: s => s.dropWhile isContentChar
  | s => s

/-- Takes a line end. -/
def takeNewline : List Char → Option (List Char)
  | '\n' :: s => some s
  | '\r' :: '\n' :: s => some s
  | _ => none

/-- The text after spaces, tabs, line ends and comments; `fuel` bounds their number. -/
def skipLayout : Nat → List Char → List Char
  | 0, s => s
  | fuel + 1, s =>
    let t := skipComment (skipSpaces s)
    match takeNewline t with
    | some rest => skipLayout fuel rest
    | none => t

/-! ### Numbers -/

/-- The value of a digit in a base of up to sixteen. -/
def digitOf? (base : Nat) (c : Char) : Option Nat :=
  let value :=
    if c.isDigit then c.toNat - '0'.toNat
    else if 'a' ≤ c ∧ c ≤ 'f' then c.toNat - 'a'.toNat + 10
    else if 'A' ≤ c ∧ c ≤ 'F' then c.toNat - 'A'.toNat + 10
    else base
  if value < base then some value else none

/-- Digits that follow a number `n`; single underscores may stand between digits. -/
def takeDigits (base : Nat) (n : Nat) : List Char → Nat × List Char
  | '_' :: c :: rest =>
    match digitOf? base c with
    | some d => takeDigits base (n * base + d) rest
    | none => (n, '_' :: c :: rest)
  | c :: rest =>
    match digitOf? base c with
    | some d => takeDigits base (n * base + d) rest
    | none => (n, c :: rest)
  | [] => (n, [])

/-- A number that starts with a digit. -/
def takeBased (base : Nat) : List Char → Option (Nat × List Char)
  | c :: rest => (digitOf? base c).map fun d => takeDigits base d rest
  | [] => none

/-- A decimal number; a zero at the start stands alone. -/
def takeDecimal : List Char → Option (Nat × List Char)
  | '0' :: rest => some (0, rest)
  | s => takeBased 10 s

/-- An integer: decimal with an optional sign, or with a prefix for its base. -/
def takeInteger : List Char → Option (Int × List Char)
  | '+' :: s => (takeDecimal s).map fun (n, rest) => ((n : Int), rest)
  | '-' :: s => (takeDecimal s).map fun (n, rest) => (-(n : Int), rest)
  | '0' :: 'x' :: s => (takeBased 16 s).map fun (n, rest) => ((n : Int), rest)
  | '0' :: 'o' :: s => (takeBased 8 s).map fun (n, rest) => ((n : Int), rest)
  | '0' :: 'b' :: s => (takeBased 2 s).map fun (n, rest) => ((n : Int), rest)
  | s => (takeDecimal s).map fun (n, rest) => ((n : Int), rest)

/-! ### Strings -/

/-- The number written by hexadecimal digits, all of which have to be there. -/
def hexNumber? (digits : List Char) : Option Nat :=
  digits.foldl (fun n c => n.bind fun n => (digitOf? 16 c).map (n * 16 + ·)) (some 0)

/-- The character written by `width` hexadecimal digits. -/
def takeCodePoint (width : Nat) (s : List Char) : Option (Char × List Char) :=
  let digits := s.take width
  if digits.length = width then
    (hexNumber? digits).bind fun n =>
      if n.isValidChar then some (Char.ofNat n, s.drop width) else none
  else none

/-- The character that an escape stands for, after its backslash. -/
def takeEscape : List Char → Option (Char × List Char)
  | 'b' :: s => some ('\x08', s)
  | 't' :: s => some ('\t', s)
  | 'n' :: s => some ('\n', s)
  | 'f' :: s => some ('\x0c', s)
  | 'r' :: s => some ('\r', s)
  | 'e' :: s => some ('\x1b', s)
  | '"' :: s => some ('"', s)
  | '\\' :: s => some ('\\', s)
  | 'x' :: s => takeCodePoint 2 s
  | 'u' :: s => takeCodePoint 4 s
  | 'U' :: s => takeCodePoint 8 s
  | _ => none

/-- The rest of a string between double quotes, up to its end; `read` is its start in reverse
order, and `fuel` bounds its length. -/
def takeBasic : Nat → List Char → List Char → Option (List Char × List Char)
  | 0, _, _ => none
  | _ + 1, _, [] => none
  | _ + 1, read, '"' :: s => some (read.reverse, s)
  | fuel + 1, read, '\\' :: s =>
    (takeEscape s).bind fun (c, rest) => takeBasic fuel (c :: read) rest
  | fuel + 1, read, c :: s => if isContentChar c then takeBasic fuel (c :: read) s else none

/-- The rest of a string between single quotes, up to its end. -/
def takeLiteral (read : List Char) : List Char → Option (List Char × List Char)
  | [] => none
  | '\'' :: s => some (read.reverse, s)
  | c :: s => if isContentChar c then takeLiteral (c :: read) s else none

/-- Takes the three quotes at the end of a string of several lines.  One or two more quotes before
them belong to the string. -/
def takeClosing (quote : Char) (s : List Char) : Option (List Char × List Char) :=
  let quotes := (s.takeWhile (· == quote)).length
  if 3 ≤ quotes then
    let kept := min (quotes - 3) 2
    some (List.replicate kept quote, s.drop (kept + 3))
  else none

/-- The text after the spaces, tabs and line ends that a backslash at the end of a line swallows;
`fuel` bounds their number. -/
def skipFolded : Nat → List Char → List Char
  | 0, s => s
  | fuel + 1, s =>
    match takeNewline (skipSpaces s) with
    | some rest => skipFolded fuel rest
    | none => skipSpaces s

/-- The rest of a string of several lines between double quotes. -/
def takeMultiBasic : Nat → List Char → List Char → Option (List Char × List Char)
  | 0, _, _ => none
  | _ + 1, _, [] => none
  | fuel + 1, read, '"' :: s =>
    match takeClosing '"' ('"' :: s) with
    | some (kept, rest) => some (read.reverse ++ kept, rest)
    | none => takeMultiBasic fuel ('"' :: read) s
  | fuel + 1, read, '\\' :: s =>
    match takeNewline (skipSpaces s) with
    | some rest => takeMultiBasic fuel read (skipFolded fuel rest)
    | none => (takeEscape s).bind fun (c, rest) => takeMultiBasic fuel (c :: read) rest
  | fuel + 1, read, '\n' :: s => takeMultiBasic fuel ('\n' :: read) s
  | fuel + 1, read, '\r' :: '\n' :: s => takeMultiBasic fuel ('\n' :: '\r' :: read) s
  | fuel + 1, read, c :: s => if isContentChar c then takeMultiBasic fuel (c :: read) s else none

/-- The rest of a string of several lines between single quotes. -/
def takeMultiLiteral : Nat → List Char → List Char → Option (List Char × List Char)
  | 0, _, _ => none
  | _ + 1, _, [] => none
  | fuel + 1, read, '\'' :: s =>
    match takeClosing '\'' ('\'' :: s) with
    | some (kept, rest) => some (read.reverse ++ kept, rest)
    | none => takeMultiLiteral fuel ('\'' :: read) s
  | fuel + 1, read, '\n' :: s => takeMultiLiteral fuel ('\n' :: read) s
  | fuel + 1, read, '\r' :: '\n' :: s => takeMultiLiteral fuel ('\n' :: '\r' :: read) s
  | fuel + 1, read, c :: s => if isContentChar c then takeMultiLiteral fuel (c :: read) s else none

/-- The text after a line end directly behind the quotes that open a string of several lines. -/
def skipFirstNewline (s : List Char) : List Char := (takeNewline s).getD s

/-- A string in any of its four forms. -/
def takeString (s : List Char) : Option (String × List Char) :=
  let done := Option.map fun (cs, rest) => (String.ofList cs, rest)
  match s with
  | '"' :: '"' :: '"' :: s => done (takeMultiBasic (s.length + 1) [] (skipFirstNewline s))
  | '\'' :: '\'' :: '\'' :: s => done (takeMultiLiteral (s.length + 1) [] (skipFirstNewline s))
  | '"' :: s => done (takeBasic (s.length + 1) [] s)
  | '\'' :: s => done (takeLiteral [] s)
  | _ => none

/-! ### Keys -/

/-- Whether a character may stand in a key without quotes. -/
def isBareChar (c : Char) : Bool := c.isAlphanum || c == '_' || c == '-'

/-- A key without dots: bare, or quoted on one line. -/
def takeSimpleKey (s : List Char) : Option (String × List Char) :=
  let done := Option.map fun (cs, rest) => (String.ofList cs, rest)
  match s with
  | '"' :: s => done (takeBasic (s.length + 1) [] s)
  | '\'' :: s => done (takeLiteral [] s)
  | s =>
    let key := s.takeWhile isBareChar
    if key.isEmpty then none else some (String.ofList key, s.dropWhile isBareChar)

/-- The keys of a dotted key; `fuel` bounds their number. -/
def takeKey : Nat → List Char → Option (List String × List Char)
  | 0, _ => none
  | fuel + 1, s =>
    (takeSimpleKey s).bind fun (key, rest) =>
      match skipSpaces rest with
      | '.' :: more => (takeKey fuel (skipSpaces more)).map fun (keys, rest) => (key :: keys, rest)
      | rest => some ([key], rest)

end NodeDemand.Toml
