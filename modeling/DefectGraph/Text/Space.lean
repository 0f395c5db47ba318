import DefectGraph.Text.CharTable

/-!
# White space

The characters with the Unicode property White_Space, and trimming by them.
-/

namespace DefectGraph.Text

/-- White space above ASCII. -/
def spaceTable : CharTable :=
  [(0x85, 0x85), (0xA0, 0xA0), (0x1680, 0x1680), (0x2000, 0x200A), (0x2028, 0x2029),
   (0x202F, 0x202F), (0x205F, 0x205F), (0x3000, 0x3000)]

/-- A tab, a line break, a vertical tab, a form feed, a blank, or white space above ASCII. -/
def isSpace (c : Char) : Bool :=
  if c.toNat < 0x80 then c == ' ' || (9 ≤ c.toNat && c.toNat ≤ 13) else spaceTable.has c

/-- Drops the white space at both ends. -/
def trim (s : List Char) : List Char :=
  ((s.dropWhile isSpace).reverse.dropWhile isSpace).reverse

end DefectGraph.Text
