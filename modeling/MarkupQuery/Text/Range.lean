/-!
# Ranges of code points

Tables of characters are lists of inclusive ranges of code points; `Text.inRanges` looks one up.
-/

namespace MarkupQuery.Text

/-- An inclusive range of code points. -/
abbrev Range := Nat × Nat

/-- Whether a character lies in one of the ranges. -/
def inRanges (ranges : List Range) (c : Char) : Bool :=
  ranges.any fun r => r.1 ≤ c.toNat && c.toNat ≤ r.2

/-- Code points from a first to a last one, with a step between them. -/
abbrev Stride := Nat × Nat × Nat

/-- Whether a character lies in one of the strides. -/
def inStrides (strides : List Stride) (c : Char) : Bool :=
  strides.any fun s => s.1 ≤ c.toNat && c.toNat ≤ s.2.1 && (c.toNat - s.1) % s.2.2 = 0

end MarkupQuery.Text
