/-!
# Finite doubles

A finite double is kept by its 64 bits.  Its value is read off as a whole number
of *grains*: every finite double is a multiple of `2 ^ -1074`, the least positive
one, so `grains` is exact and comparing two doubles is comparing two integers.

`nearestBits` goes the other way, from a ratio of natural numbers to the double
next to it, a tie going to the even neighbour.  The bits of the positive doubles
count them in increasing order, so rounding up past a power of two needs no
special case: it is the next number.
-/

namespace DeviceLink

/-- A double that is neither infinite nor a NaN. -/
structure Double where
  bits : UInt64
  finite : bits.toNat % 0x8000000000000000 < 0x7ff0000000000000
deriving DecidableEq, Repr

namespace Double

def grainsPerOne : Nat := 1 <<< 1074

def negative (x : Double) : Bool := 0x8000000000000000 ≤ x.bits.toNat

/-- The bits without the sign; they order the doubles of one sign by size. -/
def magnitudeBits (x : Double) : Nat := x.bits.toNat % 0x8000000000000000

def exponentField (x : Double) : Nat := x.magnitudeBits >>> 52

def fractionField (x : Double) : Nat := x.magnitudeBits % 0x10000000000000

/-- The significand as a whole number; the leading bit is implicit unless the
exponent field is zero. -/
def significand (x : Double) : Nat :=
  if x.exponentField = 0 then x.fractionField else 0x10000000000000 + x.fractionField

/-- The power of two that the significand is multiplied by, in grains. -/
def scale (x : Double) : Nat := x.exponentField - 1

def magnitude (x : Double) : Nat := x.significand <<< x.scale

def grains (x : Double) : Int :=
  if x.negative then -(x.magnitude : Int) else x.magnitude

/-- The value without its fraction, toward zero. -/
def truncate (x : Double) : Int := x.grains.tdiv grainsPerOne

/-- The quotient rounded to the nearest whole number, a tie to the even one. -/
def roundQuotient (num den : Nat) : Nat :=
  let q := num / den
  let r := num % den
  if 2 * r < den then q
  else if den < 2 * r then q + 1
  else if q % 2 = 0 then q else q + 1

/-- The magnitude bits of the double nearest to `num / den`.  Below `2 ^ 53`
grains every whole number of grains is a double; above, the spacing doubles with
each further bit. -/
def nearestBits (num den : Nat) : Nat :=
  let whole := num * grainsPerOne / den
  if whole < 0x20000000000000 then roundQuotient (num * grainsPerOne) den
  else
    let s := whole.log2 - 52
    s <<< 52 + roundQuotient (num * grainsPerOne) (den <<< s)

def ofMagnitudeBits? (m : Nat) : Option Double :=
  if h : m < 0x7ff0000000000000 then
    some ⟨UInt64.ofNat m, by
      have : (UInt64.ofNat m).toNat = m := by
        rw [UInt64.toNat_ofNat']
        omega
      omega⟩
  else none

/-- The double nearest to `num / den`; `none` if that is infinite. -/
def ofRatio? (num den : Nat) : Option Double :=
  ofMagnitudeBits? (nearestBits num den)

def zero : Double := ⟨0, by decide⟩

/-- The same value with the other sign; zero has two signs as well. -/
def negate (x : Double) : Double :=
  ⟨x.bits ^^^ 0x8000000000000000, by
    have h := x.finite
    have hx : x.bits.toNat % 2 ^ 63 = (x.bits ^^^ 0x8000000000000000).toNat % 2 ^ 63 := by
      rw [UInt64.toNat_xor]
      rw [← Nat.and_two_pow_sub_one_eq_mod, ← Nat.and_two_pow_sub_one_eq_mod,
        Nat.and_xor_distrib_right]
      have : (0x8000000000000000 : UInt64).toNat &&& (2 ^ 63 - 1) = 0 := by decide
      rw [this, Nat.xor_zero]
    omega⟩

/-- The product, rounded; `none` if it overflows.  Signs are not looked at. -/
def mul? (x : Double) (num den : Nat) : Option Double :=
  ofRatio? (x.magnitude * num) (grainsPerOne * den)

end Double

end DeviceLink
