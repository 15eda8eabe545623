/-!
# Character ranges

A class of characters given by a table of ranges of code points, both ends included.
-/

namespace TypedSql.Text

def inRanges (ranges : List (Nat × Nat)) (c : Char) : Bool :=
  ranges.any fun (lo, hi) => lo ≤ c.toNat && c.toNat ≤ hi

end TypedSql.Text
