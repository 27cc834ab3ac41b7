/-!
Classes of characters given as tables of closed ranges of code points.
-/

namespace Stencil.Text

/-- Does the code point of `c` lie in one of the closed ranges? -/
def inRanges (ranges : Array (Nat × Nat)) (c : Char) : Bool :=
  ranges.any fun range => range.1 ≤ c.toNat && c.toNat ≤ range.2

end Stencil.Text
