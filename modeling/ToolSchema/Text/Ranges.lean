/-!
# Tables of characters

A property of characters is given by a table of the ranges of numbers that have it.
-/

namespace ToolSchema

namespace Text

/-- The number is in one of the ranges, both ends included. -/
def isWithin (ranges : List (Nat × Nat)) (n : Nat) : Bool :=
  ranges.any (fun range => range.1 ≤ n && n ≤ range.2)

end Text

end ToolSchema
