/-!
# Character ranges

Sets of characters given by a table of code point ranges, both ends included.
-/

namespace ViewModel.Text

/-- One of the ranges of the table holds the character. -/
def inRanges (ranges : List (Nat × Nat)) (c : Char) : Bool :=
  ranges.any fun range => range.1 ≤ c.toNat && c.toNat ≤ range.2

end ViewModel.Text
