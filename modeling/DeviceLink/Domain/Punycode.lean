/-!
# Encoded labels

A label that holds more than ASCII travels as ASCII: its ASCII characters come
first, then, behind a hyphen, numbers that say which other characters to insert
and where.  The characters are inserted in increasing order, and one number moves
both the code point and the place on, the place going round faster.

A number is written with the least digit first, in a base that varies from digit
to digit, so that its last digit shows by its size.  How the base varies is
adapted to the numbers read so far.
-/

namespace DeviceLink.Domain.Punycode

/-- How many digits there are: the small letters, then the ten decimal digits. -/
def base : Nat := 36

def digit? (c : Char) : Option Nat :=
  if c.isLower then some (c.toNat - 0x61)
  else if c.isDigit then some (c.toNat - 0x30 + 26)
  else none

/-- The least digit that does not end a number; `k` is the place of the digit
times the base. -/
def threshold (k bias : Nat) : Nat := min (max (k - bias) 1) 26

/-- Divides a number until it is small, counting the divisions in units of the
base. -/
def scale (delta k : Nat) : Nat × Nat :=
  if 455 < delta then scale (delta / 35) (k + base) else (delta, k)
termination_by delta
decreasing_by exact Nat.div_lt_self (by omega) (by omega)

/-- The bias after a number: the larger the number, the larger the bias.  The first
number is expected to be much larger than the others. -/
def adapt (delta length : Nat) (isFirst : Bool) : Nat :=
  let delta := if isFirst then delta / 700 else delta / 2
  let (delta, k) := scale (delta + delta / length) 0
  k + base * delta / (delta + 38)

def character? (n : Nat) : Option Char :=
  if n < 0xd800 ∨ (0xdfff < n ∧ n < 0x110000) then some (Char.ofNat n) else none

structure Decoder where
  /-- The text so far. -/
  text : List Char
  /-- The code point that was inserted last. -/
  code : Nat := 0x80
  bias : Nat := 72
  /-- Where the next character goes if its number is zero. -/
  place : Nat := 0
  /-- The number that is being read, added to the place. -/
  sum : Nat := 0
  /-- What the next digit counts. -/
  weight : Nat := 1
  k : Nat := base

namespace Decoder

def isBetween (d : Decoder) : Bool := d.k = base

def insert? (d : Decoder) : Option Decoder := do
  let length := d.text.length + 1
  let code := d.code + d.sum / length
  let place := d.sum % length
  let c ← character? code
  some {
    text := d.text.insertIdx place c
    code
    bias := adapt (d.sum - d.place) length (d.place = 0)
    place := place + 1
    sum := place + 1 }

def read? (d : Decoder) (c : Char) : Option Decoder := do
  let digit ← digit? c
  let t := threshold d.k d.bias
  let d := { d with sum := d.sum + digit * d.weight }
  if digit < t then d.insert?
  else some { d with weight := d.weight * (base - t), k := d.k + base }

end Decoder

/-- Splits at the last hyphen.  One at the very beginning splits nothing. -/
def split (cs : List Char) : List Char × List Char :=
  match cs.reverse.span (· ≠ '-') with
  | (digits, _ :: text) => if text = [] then ([], cs) else (text.reverse, digits.reverse)
  | (_, []) => ([], cs)

def decode? (cs : List Char) : Option (List Char) := do
  let (text, digits) := split cs
  let d ← digits.foldlM Decoder.read? { text }
  if d.isBetween then some d.text else none

end DeviceLink.Domain.Punycode
