/-
# Documents of settings

A TOML document is a tree of tables.  Tables come into being in four ways, and the way decides
what may still be added to a table later: a header may name it, a header may pass through it, a
dotted key may pass through it, or it is written out in braces.

Numbers with a fraction, dates and times are no values of this type, because no setting of the
program is one; a document that holds one is refused when it is read.
-/

namespace NodeDemand.Toml

/-- How a table came into being. -/
inductive Origin where
  /-- A header named it. -/
  | header
  /-- A longer header passed through it. -/
  | passed
  /-- A dotted key passed through it. -/
  | dotted
  /-- It was written out in braces. -/
  | inline
deriving DecidableEq, Repr

/-- A value of a document. -/
inductive Value where
  | text (s : String)
  | integer (n : Int)
  | boolean (b : Bool)
  | array (elements : List Value)
  /-- Tables that were added one by one by headers in double brackets. -/
  | tables (elements : List Value)
  | table (origin : Origin) (entries : List (String × Value))
deriving Repr

/-- The entries of a table, in the order in which the keys first occur. -/
abbrev Entries := List (String × Value)

namespace Entries

/-- The entries with the value of a key set. -/
def put (key : String) (v : Value) : Entries → Entries
  | [] => [(key, v)]
  | e :: rest => if e.1 = key then (key, v) :: rest else e :: put key v rest

/-- Adds a value under a dotted key.  The tables on the way are new, or were made by dotted keys
or in passing; the last key is new. -/
def define (v : Value) : List String → Entries → Option Entries
  | [], _ => none
  | [key], es =>
    match es.lookup key with
    | none => some (es ++ [(key, v)])
    | some _ => none
  | key :: path, es =>
    match es.lookup key with
    | none => (define v path []).map fun inner => es ++ [(key, .table .dotted inner)]
    | some (.table .dotted inner) =>
      (define v path inner).map fun inner => put key (.table .dotted inner) es
    | some (.table .passed inner) =>
      (define v path inner).map fun inner => put key (.table .dotted inner) es
    | some _ => none

/-- Changes the entries of the table that a path of keys leads to.  Keys that are missing are
added; of tables that were added one by one the last is meant; a table in braces is closed. -/
def change (f : Entries → Option Entries) : List String → Entries → Option Entries
  | [], es => f es
  | key :: path, es =>
    match es.lookup key with
    | none => (change f path []).map fun inner => es ++ [(key, .table .passed inner)]
    | some (.table .inline _) => none
    | some (.table origin inner) =>
      (change f path inner).map fun inner => put key (.table origin inner) es
    | some (.tables elements) =>
      match elements.getLast? with
      | some (.table origin inner) =>
        (change f path inner).map fun inner =>
          put key (.tables (elements.dropLast ++ [.table origin inner])) es
      | _ => none
    | some _ => none

/-- Opens the table that a header names.  It is new, or a longer header passed through it. -/
def openTable (key : String) (es : Entries) : Option Entries :=
  match es.lookup key with
  | none => some (es ++ [(key, .table .header [])])
  | some (.table .passed inner) => some (put key (.table .header inner) es)
  | some _ => none

/-- Opens a further table under a header in double brackets. -/
def openElement (key : String) (es : Entries) : Option Entries :=
  match es.lookup key with
  | none => some (es ++ [(key, .tables [.table .header []])])
  | some (.tables elements) => some (put key (.tables (elements ++ [.table .header []])) es)
  | some _ => none

end Entries

end NodeDemand.Toml
