/-! # Character classes by ranges -/

namespace SqlQuery.Text

/-- Whether a character lies in one of the ranges, both ends included. -/
def inRanges (ranges : Array (Nat × Nat)) (c : Char) : Bool :=
  ranges.any fun range => range.1 ≤ c.toNat && c.toNat ≤ range.2

end SqlQuery.Text
