import DeviceLink.Decimal.Double

/-!
# The value of a decimal numeral

A numeral without fraction and exponent that fits a signed or unsigned 64-bit
word is an integer; every other numeral is a double.  The double is reached in
two roundings at most per factor: the leading digits are collected while they
fit an unsigned 64-bit word, that word is rounded to a double, and the double is
multiplied or divided by the power of ten that the digits left over, the
fraction and the exponent ask for.  A value that becomes infinite is refused;
one that is too small becomes zero.
-/

namespace DeviceLink

/-- An integer that a signed or an unsigned 64-bit word can hold. -/
structure Word where
  val : Int
  lower : -0x8000000000000000 ≤ val := by omega
  upper : val ≤ 0xffffffffffffffff := by omega
deriving DecidableEq, Repr

def Word.ofInt? (n : Int) : Option Word :=
  if h : -0x8000000000000000 ≤ n ∧ n ≤ 0xffffffffffffffff then some ⟨n, h.1, h.2⟩ else none

/-- A decimal numeral as it is written, its digits by value.  A point without
digits and an exponent without digits are not numerals, so the digits after
either are given as `some` list. -/
structure Numeral where
  negative : Bool
  whole : List Nat
  fraction : Option (List Nat)
  exponent : Option (Bool × List Nat)
deriving DecidableEq, Repr

inductive Number
  | word (n : Word)
  | double (x : Double)
deriving DecidableEq, Repr

namespace Numeral

/-- The largest value collected from the leading digits. -/
def wordLimit : Nat := 0xffffffffffffffff

/-- The largest exponent that is told apart from any larger one. -/
def exponentLimit : Nat := 0x7fffffff

/-- Appends digits to a number while it stays within the limit.  Gives the
number and the digits left over. -/
def absorb (limit : Nat) (n : Nat) : List Nat → Nat × List Nat
  | [] => (n, [])
  | d :: ds => if n * 10 + d ≤ limit then absorb limit (n * 10 + d) ds else (n, d :: ds)

/-- The nearest double to a power of ten, for exponents up to 308. -/
def powerOfTen? (e : Nat) : Option Double := Double.ofRatio? (Nat.pow 10 e) 1

/-- A double divided by a power of ten: in one step if the power is itself a
double, otherwise the largest such power is taken off first. -/
def divideByPower (x : Double) (e : Nat) : Option Double :=
  if h : e ≤ 308 then do
    let p ← powerOfTen? e
    Double.ofRatio? x.magnitude p.magnitude
  else if x.magnitude = 0 then some x
  else do
    let p ← powerOfTen? 308
    divideByPower (← Double.ofRatio? x.magnitude p.magnitude) (e - 308)
termination_by e
decreasing_by omega

/-- A double multiplied by a power of ten; `none` if the product is infinite.
Zero stays zero under any power. -/
def multiplyByPower (x : Double) (e : Nat) : Option Double :=
  if e ≤ 308 then do
    let p ← powerOfTen? e
    x.mul? p.magnitude Double.grainsPerOne
  else if x.magnitude = 0 then some x
  else none

/-- The double `significand * 10 ^ e`, rounded at each step. -/
def scaleByPower (significand : Nat) (e : Int) : Option Double := do
  let x ← Double.ofRatio? significand 1
  if 0 ≤ e then multiplyByPower x e.toNat else divideByPower x (-e).toNat

/-- An exponent sum kept within the range of a signed 32-bit word. -/
def clampExponent (e : Int) : Int := max (-0x80000000) (min 0x7fffffff e)

/-- The size of a numeral that is not an integer, from its collected digits, the
power of ten that belongs to them, and the written exponent.  An exponent too
long to be collected makes any number but zero infinite or zero. -/
def magnitude? (significand : Nat) (shift : Int) : Option (Bool × List Nat) → Option Double
  | none => scaleByPower significand shift
  | some (down, digits) =>
    match absorb exponentLimit 0 digits with
    | (e, []) => scaleByPower significand (clampExponent (if down then shift - e else shift + e))
    | (_, _ :: _) => if significand ≠ 0 ∧ ¬ down then none else some Double.zero

def signed (negative : Bool) (x : Double) : Double :=
  if negative then x.negate else x

/-- The number a numeral denotes; `none` if it is infinite. -/
def value? (t : Numeral) : Option Number :=
  let (significand, dropped) := absorb wordLimit 0 t.whole
  let float (n : Nat) (shift : Int) : Option Number :=
    (magnitude? n shift t.exponent).map fun x => .double (signed t.negative x)
  match t.fraction with
  | some digits =>
    let (n, ignored) := absorb wordLimit significand digits
    float n (dropped.length - (digits.length - ignored.length : Nat))
  | none =>
    if t.exponent.isSome ∨ dropped ≠ [] then float significand dropped.length
    else
      let n : Int := if t.negative then -(significand : Int) else significand
      if t.negative ∧ significand = 0 then some (.double Double.zero.negate)
      else match Word.ofInt? n with
        | some w => some (.word w)
        | none => float significand 0

end Numeral

end DeviceLink
