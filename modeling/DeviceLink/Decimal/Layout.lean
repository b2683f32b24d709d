import DeviceLink.Decimal.Shortest

/-!
# How a double is written

A double is written with its shortest digits and always so that it cannot be
taken for an integer.  Values whose leading digit stands between the fifth place
after the point and the sixteenth before it are written out with a point; all
others have one digit before the point and an exponent with its sign.
-/

namespace DeviceLink.Double

def significantDigits (n : Nat) : List Char :=
  ((Nat.toDigits 10 n).reverse.dropWhile (· == '0')).reverse

/-- Digits written out around the point, `leading` being the power of ten of the
first one. -/
def positional (digits : List Char) (leading : Int) : List Char :=
  if 0 ≤ leading then
    let whole := leading.toNat + 1
    if digits.length ≤ whole then
      digits ++ List.replicate (whole - digits.length) '0' ++ ['.', '0']
    else digits.take whole ++ '.' :: digits.drop whole
  else '0' :: '.' :: List.replicate ((-leading).toNat - 1) '0' ++ digits

/-- Digits with an exponent: one before the point, the others after it. -/
def scientific (digits : List Char) (leading : Int) : List Char :=
  let sign := if 0 ≤ leading then '+' else '-'
  digits.take 1 ++ (if digits.length ≤ 1 then [] else '.' :: digits.drop 1)
    ++ 'e' :: sign :: Nat.toDigits 10 leading.natAbs

def toText (x : Double) : String :=
  let d := x.shortest
  let sign := if x.negative then ['-'] else []
  let body :=
    if d.coefficient = 0 then ['0', '.', '0']
    else
      let leading := d.exponent + ((Nat.toDigits 10 d.coefficient).length - 1 : Nat)
      let digits := significantDigits d.coefficient
      if -5 ≤ leading ∧ leading < 16 then positional digits leading
      else scientific digits leading
  String.ofList (sign ++ body)

end DeviceLink.Double
