/-
# Reading bytes as UTF-8

A byte sequence is cut into pieces: well-formed characters, and maximal runs of bytes that start
like a character but are none.  Two readers are built on the pieces.  `decode` gives the text if
every piece is a character, and otherwise says where the first other piece stands; `decodeLossy`
puts the replacement character in the place of each such piece.
-/

namespace NodeDemand.Utf8

/-- A piece of a byte sequence. -/
inductive Piece where
  /-- A character. -/
  | char (c : Char)
  /-- A run of bytes that no byte can complete to a character. -/
  | invalid (length : Nat)
  /-- The start of a character at the end of the bytes. -/
  | truncated
deriving DecidableEq, Repr

/-- A character of which some bytes have been read and some are still owed. -/
structure Pending where
  /-- The bits of the character so far. -/
  bits : Nat
  /-- How many bytes have been read. -/
  read : Nat
  /-- How many bytes follow the next one. -/
  more : Nat
  /-- The least value of the next byte. -/
  low : Nat
  /-- The greatest value of the next byte. -/
  high : Nat
deriving DecidableEq, Repr

/-- What a byte between two characters begins. -/
def start (b : Nat) : Piece ⊕ Pending :=
  if b < 0x80 then .inl (.char (Char.ofNat b))
  else if b < 0xC2 then .inl (.invalid 1)
  else if b < 0xE0 then .inr ⟨b - 0xC0, 1, 0, 0x80, 0xBF⟩
  else if b = 0xE0 then .inr ⟨0, 1, 1, 0xA0, 0xBF⟩
  else if b = 0xED then .inr ⟨0xD, 1, 1, 0x80, 0x9F⟩
  else if b < 0xF0 then .inr ⟨b - 0xE0, 1, 1, 0x80, 0xBF⟩
  else if b = 0xF0 then .inr ⟨0, 1, 2, 0x90, 0xBF⟩
  else if b < 0xF4 then .inr ⟨b - 0xF0, 1, 2, 0x80, 0xBF⟩
  else if b = 0xF4 then .inr ⟨4, 1, 2, 0x80, 0x8F⟩
  else .inl (.invalid 1)

/-- What the next byte makes of a character under way, unless it cannot belong to it. -/
def Pending.feed? (p : Pending) (b : Nat) : Option (Piece ⊕ Pending) :=
  if p.low ≤ b ∧ b ≤ p.high then
    let bits := p.bits * 64 + (b - 0x80)
    match p.more with
    | 0 => some (.inl (.char (Char.ofNat bits)))
    | more + 1 => some (.inr ⟨bits, p.read + 1, more, 0x80, 0xBF⟩)
  else none

/-- The pieces that a byte completes, and the character that is under way after it. -/
def step (p : Option Pending) (b : Nat) : List Piece × Option Pending :=
  match p.bind (·.feed? b) with
  | some (.inl piece) => ([piece], none)
  | some (.inr q) => ([], some q)
  | none =>
    let given := p.elim [] fun q => [.invalid q.read]
    match start b with
    | .inl piece => (given ++ [piece], none)
    | .inr q => (given, some q)

/-- The pieces of a byte sequence. -/
def pieces (bytes : List UInt8) : List Piece :=
  let (read, p) := bytes.foldl
    (fun (read, p) b =>
      let (new, q) := step p b.toNat
      (new.reverse ++ read, q))
    ([], none)
  (if p.isSome then Piece.truncated :: read else read).reverse

/-- The character that stands for a piece; one that is no character is replaced. -/
def Piece.shown : Piece → Char
  | char c => c
  | _ => '\ufffd'

/-- The text of a byte sequence, with whatever is no character replaced. -/
def decodeLossy (bytes : List UInt8) : List Char := (pieces bytes).map Piece.shown

/-- Where a byte sequence stops being UTF-8: the number of bytes before, and the length of the
run that is no character, which is unknown if the bytes end within it. -/
structure Error where
  /-- How many bytes are well formed. -/
  validUpTo : Nat
  /-- How many bytes after these can be given up, unless the end is missing. -/
  length : Option Nat
deriving DecidableEq, Repr

/-- The text of pieces that begin after `offset` bytes and the text `read`, in reverse order. -/
def decodeFrom (offset : Nat) (read : List Char) : List Piece → Except Error (List Char)
  | [] => .ok read.reverse
  | .char c :: rest => decodeFrom (offset + c.utf8Size) (c :: read) rest
  | .invalid n :: _ => .error ⟨offset, some n⟩
  | .truncated :: _ => .error ⟨offset, none⟩

/-- The text of a byte sequence. -/
def decode (bytes : List UInt8) : Except Error (List Char) := decodeFrom 0 [] (pieces bytes)

/-- The bytes of a string. -/
def encode (s : String) : List UInt8 := s.toUTF8.toList

end NodeDemand.Utf8
