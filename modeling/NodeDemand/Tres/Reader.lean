/-
# Reading resource lists

A resource list is the word `N/A`, which stands for no resources, or a sequence of items
`name:count` between commas.  A name is the longest run of name characters and a count the
longest run of digits.  Of two items with one name the later one counts.

The reader takes items as long as it can.  The first item has to be there; a later one that is
malformed is not taken, and the list is then reported as ending too late, at the comma before it.
-/
import NodeDemand.Text.Alphanumeric
import NodeDemand.Text.Blank
import NodeDemand.Text.Expected
import NodeDemand.Tres.Basic

namespace NodeDemand.Tres

/-- The characters of a resource name. -/
def isNameChar (c : Char) : Bool :=
  Text.isAlphanumeric c || c == '_' || c == '-' || c == '.' || c == '/'

/-- The text that stands for no resources. -/
def noneText : List Char := ['N', '/', 'A']

/-- The item at the start of a text and the text after it. -/
def takeItem (s : List Char) : Except SyntaxError ((String × UInt64) × List Char) :=
  let name := s.takeWhile isNameChar
  if name.isEmpty then .error (.expected .name s)
  else match s.dropWhile isNameChar with
    | ':' :: rest => (takeCount rest).map fun (count, rest) => ((String.ofList name, count), rest)
    | rest => .error (.expected .colon rest)

theorem length_le_of_takeCount {s rest : List Char} {n : UInt64} (h : takeCount s = .ok (n, rest)) :
    rest.length ≤ s.length := by
  simp only [takeCount] at h
  split at h
  · cases h
  · split at h
    · cases h
    · cases h
      exact List.Sublist.length_le (List.dropWhile_sublist _)

theorem length_lt_of_takeItem {s rest : List Char} {item : String × UInt64}
    (h : takeItem s = .ok (item, rest)) : rest.length < s.length := by
  simp only [takeItem] at h
  split at h
  · cases h
  · have hle := List.Sublist.length_le (List.dropWhile_sublist (l := s) isNameChar)
    split at h
    · rename_i r hr
      cases hc : takeCount r with
      | error e => simp [hc, Except.map] at h
      | ok p =>
        obtain ⟨n, t⟩ := p
        simp only [hc, Except.map, Except.ok.injEq, Prod.mk.injEq] at h
        have := length_le_of_takeCount hc
        rw [hr, List.length_cons] at hle
        rw [← h.2]
        omega
    · cases h

/-- The items after the first one, and the text that is left. -/
def takeMore (s : List Char) : List (String × UInt64) × List Char :=
  match s with
  | ',' :: t =>
    match _h : takeItem t with
    | .ok (item, rest) =>
      let more := takeMore rest
      (item :: more.1, more.2)
    | .error _ => ([], s)
  | _ => ([], s)
termination_by s.length
decreasing_by
  have := length_lt_of_takeItem _h
  simp only [List.length_cons]
  omega

/-- The items of a list, which has at least one. -/
def readItems (s : List Char) : Except SyntaxError (List (String × UInt64)) :=
  match takeItem s with
  | .error e => .error e
  | .ok (item, rest) =>
    let more := takeMore rest
    if more.2.isEmpty then .ok (item :: more.1) else .error (.expected .ending more.2)

/-- The resources that a text lists. -/
def read (s : List Char) : Except SyntaxError Tres :=
  let t := Text.trim s
  if t = noneText then .ok empty else (readItems t).map ofList

/-- The resources that a string lists. -/
def ofText (s : String) : Except SyntaxError Tres := read s.toList

end NodeDemand.Tres
