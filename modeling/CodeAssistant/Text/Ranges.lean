/-
# Ranges of code points

Properties of characters that are data of a standard are kept as tables of ranges.
-/

namespace CodeAssistant.Text

/-- The character's code point lies in one of the ranges, whose ends belong to them. -/
def inRanges (ranges : Array (Nat × Nat)) (c : Char) : Bool :=
  ranges.any fun (low, high) => low ≤ c.toNat && c.toNat ≤ high

end CodeAssistant.Text
