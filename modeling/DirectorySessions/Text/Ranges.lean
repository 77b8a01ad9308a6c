/-
# Tables of code points

A set of characters is given by the closed ranges of its code points, in
ascending order.  A long table is cut into parts, each with the last code
point that it covers, so that a search looks at one part only.
-/

namespace DirectorySessions.Text

def inRanges (ranges : List (Nat × Nat)) (n : Nat) : Bool :=
  ranges.any fun r => decide (r.1 ≤ n) && decide (n ≤ r.2)

/-- Parts of a table, each with the last code point that it covers. -/
abbrev RangeTable := List (Nat × List (Nat × Nat))

/-- Does the table hold a code point?  The first part that reaches it decides. -/
def RangeTable.has (t : RangeTable) (n : Nat) : Bool :=
  match t.find? fun part => decide (n ≤ part.1) with
  | some part => inRanges part.2 n
  | none => false

end DirectorySessions.Text
