/-!
Sets of characters, given as ranges of code points in ascending order.
-/

namespace LineLimit.Unicode

def inRanges (ranges : List (Nat × Nat)) (c : Char) : Bool :=
  ranges.any fun (low, high) => decide (low ≤ c.toNat ∧ c.toNat ≤ high)

end LineLimit.Unicode
