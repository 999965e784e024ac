/-
# Reading a document

A document is a sequence of lines.  A line is blank, or gives a key its value, or is a header that
says which table the keys on the following lines belong to.
-/
import NodeDemand.Toml.Scalar
import NodeDemand.Toml.Value

namespace NodeDemand.Toml

mutual

/-- A value; `fuel` bounds its depth and the number of its parts. -/
def takeValue : Nat → List Char → Option (Value × List Char)
  | 0, _ => none
  | fuel + 1, s =>
    match s with
    | '[' :: rest => (takeElements fuel [] (skipLayout rest.length rest)).map fun (vs, rest) =>
        (.array vs, rest)
    | '{' :: rest => (takePairs fuel [] (skipLayout rest.length rest)).map fun (es, rest) =>
        (.table .inline es, rest)
    | '"' :: _ | '\'' :: _ => (takeString s).map fun (t, rest) => (.text t, rest)
    | 't' :: _ => (takeWord ['t', 'r', 'u', 'e'] s).map ((.boolean true, ·))
    | 'f' :: _ => (takeWord ['f', 'a', 'l', 's', 'e'] s).map ((.boolean false, ·))
    | _ => (takeInteger s).map fun (n, rest) => (.integer n, rest)

/-- The rest of an array whose elements so far are `read`. -/
def takeElements : Nat → List Value → List Char → Option (List Value × List Char)
  | 0, _, _ => none
  | fuel + 1, read, s =>
    match s with
    | ']' :: rest => some (read, rest)
    | s =>
      (takeValue fuel s).bind fun (v, rest) =>
        match skipLayout rest.length rest with
        | ',' :: more => takeElements fuel (read ++ [v]) (skipLayout more.length more)
        | ']' :: more => some (read ++ [v], more)
        | _ => none

/-- The rest of a table in braces whose entries so far are `read`.  Line ends may stand wherever
spaces may, except around the dots of a key. -/
def takePairs : Nat → Entries → List Char → Option (Entries × List Char)
  | 0, _, _ => none
  | fuel + 1, read, s =>
    match s with
    | '}' :: rest => some (read, rest)
    | s =>
      (takeKey s.length s).bind fun (keys, rest) =>
        match skipLayout rest.length rest with
        | '=' :: rest =>
          (takeValue fuel (skipLayout rest.length rest)).bind fun (v, rest) =>
            (Entries.define v keys read).bind fun read =>
              match skipLayout rest.length rest with
              | ',' :: more => takePairs fuel read (skipLayout more.length more)
              | '}' :: more => some (read, more)
              | _ => none
        | _ => none

end

/-- A header: the keys between its brackets, and whether these are double. -/
def takeHeader (s : List Char) : Option ((List String × Bool) × List Char) :=
  match s with
  | '[' :: '[' :: rest =>
    (takeKey rest.length (skipSpaces rest)).bind fun (keys, rest) =>
      match rest with
      | ']' :: ']' :: rest => some ((keys, true), rest)
      | _ => none
  | '[' :: rest =>
    (takeKey rest.length (skipSpaces rest)).bind fun (keys, rest) =>
      match rest with
      | ']' :: rest => some ((keys, false), rest)
      | _ => none
  | _ => none

/-- A document as far as it has been read. -/
structure Draft where
  /-- The entries of the outermost table. -/
  root : Entries := []
  /-- The keys that lead to the table which the next lines belong to. -/
  path : List String := []

/-- The draft after a header. -/
def Draft.openHeader (draft : Draft) (keys : List String) (double : Bool) : Option Draft :=
  keys.getLast?.bind fun last =>
    let open_ := if double then Entries.openElement last else Entries.openTable last
    (Entries.change open_ keys.dropLast draft.root).map (⟨·, keys⟩)

/-- The draft after a key with its value. -/
def Draft.define (draft : Draft) (keys : List String) (v : Value) : Option Draft :=
  (Entries.change (Entries.define v keys) draft.path draft.root).map ({ draft with root := · })

/-- A key with its value. -/
def takePair (s : List Char) : Option ((List String × Value) × List Char) :=
  (takeKey s.length s).bind fun (keys, rest) =>
    match rest with
    | '=' :: rest =>
      (takeValue (rest.length + 1) (skipSpaces rest)).map fun (v, rest) => ((keys, v), rest)
    | _ => none

/-- The draft after the content of a line, and the text that follows the content. -/
def takeContent (draft : Draft) (s : List Char) : Option (Draft × List Char) :=
  match s with
  | [] | '#' :: _ | '\n' :: _ | '\r' :: _ => some (draft, s)
  | '[' :: _ =>
    (takeHeader s).bind fun ((keys, double), rest) =>
      (draft.openHeader keys double).map (·, rest)
  | _ =>
    (takePair s).bind fun ((keys, v), rest) => (draft.define keys v).map (·, rest)

/-- The document whose first lines are in the draft; `fuel` bounds the number of lines. -/
def readLines : Nat → Draft → List Char → Option Entries
  | 0, _, _ => none
  | fuel + 1, draft, s =>
    (takeContent draft (skipSpaces s)).bind fun (draft, rest) =>
      match skipComment (skipSpaces rest) with
      | [] => some draft.root
      | rest => (takeNewline rest).bind (readLines fuel draft)

/-- The entries of a document, which a byte order mark may precede. -/
def read (text : String) : Option Entries :=
  match text.toList with
  | '\ufeff' :: s => readLines (s.length + 1) {} s
  | s => readLines (s.length + 1) {} s

end NodeDemand.Toml
