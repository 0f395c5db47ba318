/-!
# Tables of code points

A character property of the Unicode standard is kept as the list of its ranges above ASCII, in
increasing order; the property of an ASCII character is decided without the table.
-/

namespace DefectGraph.Text

/-- Code-point ranges, each given by its first and its last member. -/
abbrev CharTable : Type := List (Nat × Nat)

/-- Membership of a character in one of the ranges. -/
def CharTable.has (table : CharTable) (c : Char) : Bool :=
  table.any fun range => range.1 ≤ c.toNat && c.toNat ≤ range.2

end DefectGraph.Text
