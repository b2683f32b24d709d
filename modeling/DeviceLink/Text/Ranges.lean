/-!
# Ranges of code points

The tables of characters list closed ranges of code points, in increasing order.
-/

namespace DeviceLink.Text

/-- Closed ranges of code points. -/
abbrev Ranges := List (Nat × Nat)

def inRanges (code : Nat) (ranges : Ranges) : Bool :=
  ranges.any fun r => r.1 ≤ code && code ≤ r.2

end DeviceLink.Text
