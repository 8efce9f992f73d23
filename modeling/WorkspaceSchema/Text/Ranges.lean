/-!
# Ranges of code points

A property of characters is given as a list of ranges of code points.  The ranges ascend and do not
overlap, so that a search may stop at the first one beyond the character.
-/

namespace WorkspaceSchema.Text

/-- Whether `n` lies in one of the ranges, which are sorted and both ends included. -/
def inRanges (n : Nat) : List (Nat × Nat) → Bool
  | [] => false
  | (low, high) :: rest => if n < low then false else n ≤ high || inRanges n rest

end WorkspaceSchema.Text
