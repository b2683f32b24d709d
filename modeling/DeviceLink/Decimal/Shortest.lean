import DeviceLink.Decimal.Double

/-!
# The shortest decimal that reads back

The numbers that round to a given double fill an interval around it.  Among the
decimals in that interval the shortest is wanted, and of several with the same
number of digits the one nearest to the double.  For each number of digits the
double lies between two neighbours on that decimal grid, and if the interval
holds any point of the grid it holds one of the two.  So the first grid whose
neighbours include a point of the interval gives the answer; seventeen digits
are enough for every double.

Everything is computed on whole numbers.  A quarter grain is the unit of the
interval's ends, because below a power of two the next double is only half as
far away as above it.
-/

namespace DeviceLink.Double

/-- The number `coefficient * 10 ^ exponent`. -/
structure Decimal where
  coefficient : Nat
  exponent : Int
deriving DecidableEq, Repr

/-- `n * 10 ^ e` as a ratio of whole numbers. -/
def timesPowerOfTen (n : Nat) (e : Int) : Nat × Nat :=
  if 0 ≤ e then (n * Nat.pow 10 e.toNat, 1) else (n, Nat.pow 10 (-e).toNat)

/-- The exponent `e` with `10 ^ e ≤ num / den < 10 ^ (e + 1)`. -/
def decimalLog (num den : Nat) : Int :=
  if den ≤ num then ((Nat.toDigits 10 (num / den)).length - 1 : Nat)
  else
    let places := (Nat.toDigits 10 (den / num)).length
    if den ≤ num * Nat.pow 10 (places - 1) then -((places - 1 : Nat) : Int) else -(places : Int)

/-- The interval of values that round to a positive double, in quarter grains:
its lower end, its upper end, and whether the ends belong to it. -/
def interval (x : Double) : Nat × Nat × Bool :=
  let below := if x.fractionField = 0 ∧ 1 < x.exponentField then 1 else 2
  ((4 * x.significand - below) <<< x.scale,
    (4 * x.significand + 2) <<< x.scale,
    x.significand % 2 = 0)

def readsBack (x : Double) (d : Decimal) : Bool :=
  let (low, high, closed) := x.interval
  let (num, den) := timesPowerOfTen d.coefficient d.exponent
  let here := num * (4 * grainsPerOne)
  if closed then low * den ≤ here && here ≤ high * den
  else low * den < here && here < high * den

/-- The better of the two neighbours of a positive double on the grid of
multiples of `10 ^ exponent`, if one of them reads back. -/
def onGrid? (x : Double) (exponent : Int) : Option Decimal :=
  let (num, den) := timesPowerOfTen 1 exponent
  let units := x.magnitude * den
  let unit := num * grainsPerOne
  let floor := units / unit
  let lower : Decimal := ⟨floor, exponent⟩
  let upper : Decimal := ⟨floor + 1, exponent⟩
  let rest := units % unit
  let upperNearer := unit < 2 * rest || (unit == 2 * rest && floor % 2 == 1)
  let (first, second) := if upperNearer then (upper, lower) else (lower, upper)
  if x.readsBack first then some first
  else if x.readsBack second then some second
  else none

/-- The first grid that answers, from `digits` digits up to seventeen. -/
def searchGrids (x : Double) (leading : Int) : (left digits : Nat) → Option Decimal
  | 0, _ => none
  | left + 1, digits =>
    match x.onGrid? (leading - ((digits : Int) - 1)) with
    | some d => some d
    | none => searchGrids x leading left (digits + 1)

/-- The shortest decimal that reads back as the double's size, the nearest of
those; zero has the coefficient zero. -/
def shortest (x : Double) : Decimal :=
  if x.magnitude = 0 then ⟨0, 0⟩
  else (x.searchGrids (decimalLog x.magnitude grainsPerOne) 17 1).getD ⟨0, 0⟩

end DeviceLink.Double
