/-
  ConsoleLab.Text.Ranges — sets of characters given by ranges of code points.
-/

namespace ConsoleLab.Text

/-- Whether the code point of `c` lies in one of the ranges, both ends included. -/
def inRanges (ranges : Array (Nat × Nat)) (c : Char) : Bool :=
  ranges.any fun (low, high) => low ≤ c.toNat && c.toNat ≤ high

end ConsoleLab.Text
