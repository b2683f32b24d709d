import DeviceLink.Decimal.Numeral

/-!
# Timestamps

A timestamp is a whole number of seconds from the Unix epoch, in a signed 64-bit
word.  Documents carry it as a number, from which a fraction is dropped toward
zero; the clock of the system counts nanoseconds and is read the same way.

Where the arithmetic of words or of the clock has no result the program panics.  A
panic is not a missing value: it ends the operation that it happens in, and everything
around it.
-/

namespace DeviceLink

/-- Why an operation has no result and the program ends. -/
inductive Panic
  /-- A word was negated that has no negative. -/
  | negation
  /-- An instant is beyond what the clock can show. -/
  | clock
deriving DecidableEq, Repr

instance {α : Type} [DecidableEq α] : DecidableEq (Except Panic α)
  | .ok a, .ok b => if h : a = b then isTrue (h ▸ rfl) else isFalse fun e => h (Except.ok.inj e)
  | .ok _, .error _ => isFalse nofun
  | .error _, .ok _ => isFalse nofun
  | .error a, .error b =>
    if h : a = b then isTrue (h ▸ rfl) else isFalse fun e => h (Except.error.inj e)

/-- Whole seconds since the Unix epoch. -/
structure Timestamp where
  seconds : Int64
deriving DecidableEq, Repr, Inhabited

structure Span where
  seconds : UInt64
  nanos : Nat
  nanos_lt : nanos < 1000000000 := by omega
deriving DecidableEq, Repr

/-- The span of some seconds and nanoseconds together; whole seconds among the
nanoseconds are carried. -/
def Span.ofParts? (seconds : UInt64) (nanos : UInt32) : Option Span :=
  let total := seconds.toNat + nanos.toNat / 1000000000
  if total < UInt64.size then
    some ⟨UInt64.ofNat total, nanos.toNat % 1000000000, Nat.mod_lt _ (by decide)⟩
  else none

def Span.toNanos (s : Span) : Nat := s.seconds.toNat * 1000000000 + s.nanos

/-- An instant of the system's clock: nanoseconds from the epoch, the whole
seconds below them in a signed 64-bit word. -/
structure SystemTime where
  nanos : Int
  lower : -0x8000000000000000 * 1000000000 ≤ nanos
  upper : nanos < 0x8000000000000000 * 1000000000
deriving DecidableEq, Repr

namespace SystemTime

/-- The instant with this distance from the epoch, if the clock can show it. -/
def ofNanos? (n : Int) : Option SystemTime :=
  if h : -0x8000000000000000 * 1000000000 ≤ n ∧ n < 0x8000000000000000 * 1000000000 then
    some ⟨n, h.1, h.2⟩
  else none

def afterEpoch? (s : Span) : Option SystemTime := ofNanos? s.toNanos

def beforeEpoch? (s : Span) : Option SystemTime := ofNanos? (-(s.toNanos : Int))

/-- Which side of the epoch an instant lies on, and how far from it.  The epoch
itself is after it, at distance zero. -/
inductive Side
  | after (s : Span)
  | before (s : Span)
deriving DecidableEq, Repr

def spanOf (n : Nat) : Span :=
  ⟨UInt64.ofNat (n / 1000000000), n % 1000000000, Nat.mod_lt _ (by decide)⟩

def side (t : SystemTime) : Side :=
  if 0 ≤ t.nanos then .after (spanOf t.nanos.toNat) else .before (spanOf (-t.nanos).toNat)

end SystemTime

namespace Timestamp

def toText (t : Timestamp) : String := toString t.seconds.toInt

/-- The number without its fraction, if that many seconds fit. -/
def ofNumber? : Number → Option Timestamp
  | .word n => if n.val < 0x8000000000000000 then some ⟨Int64.ofInt n.val⟩ else none
  | .double x =>
    if -0x8000000000000000 * (Double.grainsPerOne : Int) ≤ x.grains ∧
        x.grains < 0x8000000000000000 * (Double.grainsPerOne : Int) then
      some ⟨Int64.ofInt x.truncate⟩
    else none

def distance (t : Timestamp) : UInt64 := UInt64.ofNat t.seconds.toInt.natAbs

def toSystemTime (t : Timestamp) : Except Panic SystemTime :=
  let instant :=
    if 0 ≤ t.seconds then SystemTime.afterEpoch? ⟨t.distance, 0, by decide⟩
    else SystemTime.beforeEpoch? ⟨t.distance, 0, by decide⟩
  match instant with
  | some instant => .ok instant
  | none => .error .clock

/-- The negative of a word.  The least one has none. -/
def checkedNeg (n : Int64) : Except Panic Int64 :=
  if n = Int64.minValue then .error .negation else .ok (-n)

/-- The timestamp of an instant; a fraction is dropped toward the epoch.  Before
the epoch the distance is taken as a signed word and then negated, which the
least word does not survive. -/
def ofSystemTime (t : SystemTime) : Except Panic Timestamp :=
  match t.side with
  | .after s => .ok ⟨s.seconds.toInt64⟩
  | .before s => (checkedNeg s.seconds.toInt64).map Timestamp.mk

def compare (a b : Timestamp) : Ordering := Ord.compare a.seconds.toInt b.seconds.toInt

end Timestamp

end DeviceLink
