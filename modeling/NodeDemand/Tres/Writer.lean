/-
# Writing resource lists

Resources are written as items `name:count` between commas, in the order of their names; no
resources are written as `N/A`.
-/
import NodeDemand.Text.Lines
import NodeDemand.Tres.Reader

namespace NodeDemand.Tres

/-- An item of a resource list. -/
def writeItem (item : String × UInt64) : List Char :=
  item.1.toList ++ ':' :: Decimal.write item.2.toNat

/-- The text that lists resources. -/
def write (t : Tres) : List Char :=
  if t.entries.isEmpty then noneText else Text.joinWith [','] (t.entries.map writeItem)

/-- The string that lists resources. -/
def text (t : Tres) : String := String.ofList t.write

end NodeDemand.Tres
