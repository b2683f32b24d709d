/-!
# Control characters

The category Cc of Unicode is two blocks and never grows: the first 32 code
points, and the delete character with the 32 code points after it.
-/

namespace DeviceLink.Text

/-- A character of the category Cc. -/
def isControl (c : Char) : Bool :=
  c.toNat < 0x20 || (0x7f ≤ c.toNat && c.toNat < 0xa0)

end DeviceLink.Text
