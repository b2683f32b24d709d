/-!
# Client tokens

A token ties an answer to its request.  It is an identifier of 128 bits, all of
them random except for the six that say so, written in groups of hexadecimal
digits.
-/

namespace DeviceLink.ClientToken

def hex : (digits : Nat) → (n : Nat) → List Char
  | 0, _ => []
  | digits + 1, n => hex digits (n / 16) ++ [Nat.digitChar (n % 16)]

/-- The high half with the mark of random identifiers in its last but two digits. -/
def markVersion (high : UInt64) : UInt64 := (high &&& 0xffffffffffff0fff) ||| 0x4000

/-- The low half with the two leading bits of this layout. -/
def markVariant (low : UInt64) : UInt64 := (low &&& 0x3fffffffffffffff) ||| 0x8000000000000000

def ofBits (high low : UInt64) : String :=
  let high := (markVersion high).toNat
  let low := (markVariant low).toNat
  String.ofList
    (hex 8 (high >>> 32) ++ '-' :: hex 4 (high >>> 16 % 0x10000) ++ '-' :: hex 4 (high % 0x10000)
      ++ '-' :: hex 4 (low >>> 48) ++ '-' :: hex 12 (low % 0x1000000000000))

end DeviceLink.ClientToken
