import DeviceLink.Proofs.Shape.RoundTrip
import Mathlib.Algebra.Order.Field.Power
import Mathlib.Data.Rat.Floor
import Mathlib.Tactic.Linarith
import Mathlib.Tactic.NormNum
import Mathlib.Tactic.Positivity
import Mathlib.Tactic.Ring

/-!
# Timestamps from numbers

A document may give a time as an integer or as a double.  Both are taken for the
rational number that they are, a double for the one that its bits denote
(`Double.value`), and what is read is that number without its fraction, toward zero
(`IsTruncation`).  A number is read exactly if it lies in the range of a signed
64-bit word, whose upper end is no double but lies just below one
(`Timestamp.read_from_number`).
-/

namespace DeviceLink

/-! ## What numbers denote -/

namespace Double

/-- The number that the bits of a double denote: the highest bit is the sign, the
next eleven are the exponent, the others the fraction.  An exponent of zero has no
leading bit before the fraction. -/
def value (x : Double) : ℚ :=
  let exponent : ℕ := x.bits.toNat / 2 ^ 52 % 2 ^ 11
  let fraction : ℚ := ((x.bits.toNat % 2 ^ 52 : ℕ) : ℚ) / 2 ^ 52
  let magnitude : ℚ :=
    if exponent = 0 then fraction * 2 ^ (-1022 : ℤ)
    else (1 + fraction) * 2 ^ ((exponent : ℤ) - 1023)
  if x.bits.toNat / 2 ^ 63 = 1 then -magnitude else magnitude

variable {x : Double}

theorem exponentField_eq : x.exponentField = x.bits.toNat / 2 ^ 52 % 2 ^ 11 := by
  rw [exponentField, magnitudeBits, Nat.shiftRight_eq_div_pow]
  omega

theorem fractionField_eq : x.fractionField = x.bits.toNat % 2 ^ 52 := by
  rw [fractionField, magnitudeBits]
  omega

theorem negative_iff : x.negative = true ↔ x.bits.toNat / 2 ^ 63 = 1 := by
  have hbits := x.bits.toNat_lt
  rw [negative, decide_eq_true_iff]
  omega

theorem cast_one_shiftLeft (k : ℕ) : ((1 <<< k : ℕ) : ℚ) = 2 ^ (k : ℤ) := by
  rw [Nat.one_shiftLeft, Nat.cast_pow, Nat.cast_ofNat, zpow_natCast]

theorem grainsPerOne_cast : (grainsPerOne : ℚ) = 2 ^ (1074 : ℤ) := cast_one_shiftLeft 1074

/-- The significand is a whole number of the grains that its scale makes up. -/
theorem magnitude_cast : (x.magnitude : ℚ) =
    (if x.exponentField = 0 then (x.fractionField / 2 ^ 52 : ℚ) * 2 ^ (-1022 : ℤ)
      else (1 + x.fractionField / 2 ^ 52 : ℚ) * 2 ^ ((x.exponentField : ℤ) - 1023)) *
        grainsPerOne := by
  rw [magnitude, Nat.shiftLeft_eq, Nat.cast_mul, Nat.cast_pow, grainsPerOne_cast, significand,
    scale]
  split
  · next hzero =>
      rw [hzero, mul_assoc, ← zpow_add₀ two_ne_zero]
      norm_num
  · next hpos =>
      have hscale : ((x.exponentField : ℤ) - 1023) + 1074 =
          52 + ((x.exponentField - 1 : Nat) : ℤ) := by
        omega
      rw [mul_assoc, ← zpow_add₀ two_ne_zero, hscale, zpow_add₀ two_ne_zero, zpow_natCast]
      push_cast
      ring

theorem grains_cast (x : Double) : (x.grains : ℚ) = x.value * grainsPerOne := by
  have hmagnitude := x.magnitude_cast
  rw [exponentField_eq, fractionField_eq] at hmagnitude
  rw [grains, value]
  by_cases hsign : x.negative = true
  · rw [if_pos hsign, if_pos (negative_iff.mp hsign), Int.cast_neg, Int.cast_natCast, hmagnitude,
      neg_mul]
  · rw [if_neg hsign, if_neg (mt negative_iff.mpr hsign), Int.cast_natCast, hmagnitude]

end Double

namespace Number

def value : Number → ℚ
  | word n => n.val
  | double x => x.value

def toDocument : Number → Document
  | word n => .word n
  | double x => .double x

end Number

/-! ## Dropping a fraction -/

/-- The whole number is what remains of a number without its fraction, toward
zero. -/
structure IsTruncation (q : ℚ) (r : ℤ) : Prop where
  within : |(r : ℚ)| ≤ |q|
  next : |q| < |(r : ℚ)| + 1
  nonneg : 0 ≤ q → 0 ≤ r
  nonpos : q ≤ 0 → r ≤ 0

namespace IsTruncation

variable {p q : ℚ} {r s : ℤ}

theorem of_nonneg (h : 0 ≤ q) : IsTruncation q ⌊q⌋ := by
  have hfloor : 0 ≤ ⌊q⌋ := Int.floor_nonneg.mpr h
  have habs : |((⌊q⌋ : ℤ) : ℚ)| = ⌊q⌋ := abs_of_nonneg (Int.cast_nonneg hfloor)
  refine ⟨?_, ?_, fun _ => hfloor, fun hq => ?_⟩
  · rw [habs, abs_of_nonneg h]
    exact Int.floor_le q
  · rw [habs, abs_of_nonneg h]
    exact Int.lt_floor_add_one q
  · rw [le_antisymm hq h, Int.floor_zero]

theorem neg (h : IsTruncation q r) : IsTruncation (-q) (-r) := by
  refine ⟨?_, ?_, fun hq => ?_, fun hq => ?_⟩
  · rw [Int.cast_neg, abs_neg, abs_neg]
    exact h.within
  · rw [Int.cast_neg, abs_neg, abs_neg]
    exact h.next
  · exact neg_nonneg.mpr (h.nonpos (neg_nonneg.mp hq))
  · exact neg_nonpos.mpr (h.nonneg (neg_nonpos.mp hq))

theorem intCast (r : ℤ) : IsTruncation r r :=
  ⟨le_refl _, lt_add_one _, Int.cast_nonneg_iff.mp, Int.cast_nonpos.mp⟩

theorem exists_of (q : ℚ) : ∃ r, IsTruncation q r := by
  rcases le_total 0 q with hq | hq
  · exact ⟨⌊q⌋, of_nonneg hq⟩
  · have hmirror := (of_nonneg (neg_nonneg.mpr hq)).neg
    rw [neg_neg] at hmirror
    exact ⟨_, hmirror⟩

/-- Division that rounds toward zero drops the fraction of a quotient. -/
theorem tdiv (n : ℤ) (d : ℕ) : IsTruncation (n / d) (n.tdiv d) := by
  have hnonneg : ∀ n : ℤ, 0 ≤ n → IsTruncation (n / d) (n.tdiv d) := by
    intro n hn
    rw [Int.tdiv_eq_ediv_of_nonneg hn, ← Rat.floor_intCast_div_natCast]
    exact of_nonneg (div_nonneg (Int.cast_nonneg hn) (Nat.cast_nonneg d))
  rcases le_total 0 n with hn | hn
  · exact hnonneg n hn
  · have hmirror := (hnonneg (-n) (neg_nonneg.mpr hn)).neg
    rwa [Int.cast_neg, neg_div, neg_neg, Int.neg_tdiv, neg_neg] at hmirror

/-- A larger number does not have a smaller whole part. -/
theorem mono (h : IsTruncation p r) (h' : IsTruncation q s) (le : p ≤ q) : r ≤ s := by
  rcases le_total 0 p with hp | hp
  · have hq := hp.trans le
    have hr : (0 : ℚ) ≤ r := Int.cast_nonneg (h.nonneg hp)
    have hs : (0 : ℚ) ≤ s := Int.cast_nonneg (h'.nonneg hq)
    have hwithin := h.within
    have hnext := h'.next
    rw [abs_of_nonneg hr, abs_of_nonneg hp] at hwithin
    rw [abs_of_nonneg hs, abs_of_nonneg hq] at hnext
    have hlt : (r : ℚ) < s + 1 := hwithin.trans_lt (le.trans_lt hnext)
    exact Int.lt_add_one_iff.mp (by exact_mod_cast hlt)
  · rcases le_total 0 q with hq | hq
    · exact (h.nonpos hp).trans (h'.nonneg hq)
    · have hr : (r : ℚ) ≤ 0 := Int.cast_nonpos.mpr (h.nonpos hp)
      have hs : (s : ℚ) ≤ 0 := Int.cast_nonpos.mpr (h'.nonpos hq)
      have hwithin := h'.within
      have hnext := h.next
      rw [abs_of_nonpos hs, abs_of_nonpos hq] at hwithin
      rw [abs_of_nonpos hr, abs_of_nonpos hp] at hnext
      have hlt : (r : ℚ) < s + 1 := by linarith
      exact Int.lt_add_one_iff.mp (by exact_mod_cast hlt)

theorem unique (h : IsTruncation q r) (h' : IsTruncation q s) : r = s :=
  le_antisymm (h.mono h' (le_refl q)) (h'.mono h (le_refl q))

/-- What is left of a number in the range of a signed word is a signed word. -/
theorem toInt_ofInt (h : IsTruncation q r) (lower : -2 ^ 63 ≤ q) (upper : q < 2 ^ 63) :
    (Int64.ofInt r).toInt = r := by
  have hlow : IsTruncation (-2 ^ 63) (-2 ^ 63) := by
    have hword := intCast (-2 ^ 63)
    rwa [Int.cast_neg, Int.cast_pow, Int.cast_ofNat] at hword
  apply Int64.toInt_ofInt_of_le (hlow.mono h lower)
  rcases le_total 0 q with hq | hq
  · have hwithin := h.within
    rw [abs_of_nonneg hq, abs_of_nonneg (Int.cast_nonneg (h.nonneg hq))] at hwithin
    exact_mod_cast hwithin.trans_lt upper
  · exact (h.nonpos hq).trans_lt (by decide)

end IsTruncation

/-! ## Reading a number of seconds -/

namespace Timestamp

theorem word_in_range_iff (n : Word) :
    n.val < 0x8000000000000000 ↔ -2 ^ 63 ≤ (n.val : ℚ) ∧ (n.val : ℚ) < 2 ^ 63 := by
  have hlower : -2 ^ 63 ≤ (n.val : ℚ) := by exact_mod_cast n.lower
  rw [and_iff_right hlower]
  exact_mod_cast Iff.rfl

theorem double_in_range_iff (x : Double) :
    (-0x8000000000000000 * (Double.grainsPerOne : Int) ≤ x.grains ∧
      x.grains < 0x8000000000000000 * (Double.grainsPerOne : Int)) ↔
      -2 ^ 63 ≤ x.value ∧ x.value < 2 ^ 63 := by
  have hgrains : (0 : ℚ) < Double.grainsPerOne := by
    rw [Double.grainsPerOne_cast]
    positivity
  have hvalue := x.grains_cast
  rw [← Int.cast_le (R := ℚ), ← Int.cast_lt (R := ℚ), hvalue, Int.cast_mul, Int.cast_mul,
    Int.cast_natCast, mul_le_mul_iff_left₀ hgrains, mul_lt_mul_iff_left₀ hgrains]
  norm_num

theorem isTruncation_truncate (x : Double) : IsTruncation x.value x.truncate := by
  have hgrains : (Double.grainsPerOne : ℚ) ≠ 0 := by
    rw [Double.grainsPerOne_cast]
    positivity
  have hvalue : x.value = x.grains / Double.grainsPerOne := by
    rw [x.grains_cast, mul_div_cancel_right₀ _ hgrains]
  rw [hvalue]
  exact IsTruncation.tdiv _ _

/-- A number is read if it is in the range of a signed word. -/
theorem ofNumber?_eq_some_iff {n : Number} {t : Timestamp} : ofNumber? n = some t ↔
    (-2 ^ 63 ≤ n.value ∧ n.value < 2 ^ 63) ∧ IsTruncation n.value t.seconds.toInt := by
  have hread : ∀ r : ℤ, IsTruncation n.value r →
      -2 ^ 63 ≤ n.value ∧ n.value < 2 ^ 63 →
        (some (⟨Int64.ofInt r⟩ : Timestamp) = some t ↔ IsTruncation n.value t.seconds.toInt) := by
    intro r hr ⟨hlower, hupper⟩
    have hword := hr.toInt_ofInt hlower hupper
    constructor
    · intro hsame
      rw [← Option.some.inj hsame]
      exact hword.symm ▸ hr
    · intro ht
      have hseconds : Int64.ofInt r = t.seconds := Int64.toInt_inj.mp (hword.trans (hr.unique ht))
      rw [hseconds]
  cases n with
  | word n =>
      rw [ofNumber?]
      split
      · next hrange =>
          have hvalue := (word_in_range_iff n).mp hrange
          exact (hread _ (IsTruncation.intCast n.val) hvalue).trans (and_iff_right hvalue).symm
      · next hrange =>
          exact iff_of_false (Option.some_ne_none t).symm fun h =>
            hrange ((word_in_range_iff n).mpr h.1)
  | double x =>
      rw [ofNumber?]
      split
      · next hrange =>
          have hvalue := (double_in_range_iff x).mp hrange
          exact (hread _ (isTruncation_truncate x) hvalue).trans (and_iff_right hvalue).symm
      · next hrange =>
          exact iff_of_false (Option.some_ne_none t).symm fun h =>
            hrange ((double_in_range_iff x).mpr h.1)

theorem decodeTime_toDocument {n : Number} {t : Timestamp} :
    decodeTime n.toDocument = .ok t ↔ ofNumber? n = some t := by
  rw [decodeTime]
  cases n with
  | word n =>
      simp only [Number.toDocument, Document.view_word]
      cases ofNumber? (.word n) <;> simp
  | double x =>
      simp only [Number.toDocument, Document.view_double]
      cases ofNumber? (.double x) <;> simp

theorem decode_number_eq_ok_iff {n : Number} {t : Timestamp} :
    Shape.time.decode n.toDocument = .ok t ↔
      (-2 ^ 63 ≤ n.value ∧ n.value < 2 ^ 63) ∧ IsTruncation n.value t.seconds.toInt :=
  decodeTime_toDocument.trans ofNumber?_eq_some_iff

/-- A number is read as a timestamp exactly if it is in the range of a signed 64-bit
word.  What is read is the number without its fraction, toward zero, whether it came
as an integer or as a double: a larger number is not read as an earlier timestamp,
and numbers of one value are read alike.  A timestamp that was read is written as an
integer and comes back. -/
theorem read_from_number (n m : Number) :
    ((∃ t, Shape.time.decode n.toDocument = .ok t) ↔ -2 ^ 63 ≤ n.value ∧ n.value < 2 ^ 63) ∧
    (∀ t : Timestamp, Shape.time.decode n.toDocument = .ok t →
      IsTruncation n.value t.seconds.toInt ∧
        Shape.time.decode (Shape.time.encode t) = .ok t) ∧
    (∀ t u : Timestamp, Shape.time.decode n.toDocument = .ok t →
      Shape.time.decode m.toDocument = .ok u → n.value ≤ m.value →
        t.seconds.toInt ≤ u.seconds.toInt) ∧
    (n.value = m.value → ∀ t : Timestamp,
      Shape.time.decode n.toDocument = .ok t ↔ Shape.time.decode m.toDocument = .ok t) := by
  refine ⟨⟨?_, fun hrange => ?_⟩, fun t hread => ?_, fun t u hread hread' hle => ?_,
    fun hsame t => ?_⟩
  · rintro ⟨t, hread⟩
    exact (decode_number_eq_ok_iff.mp hread).1
  · obtain ⟨r, hr⟩ := IsTruncation.exists_of n.value
    have hword := hr.toInt_ofInt hrange.1 hrange.2
    exact ⟨⟨Int64.ofInt r⟩, decode_number_eq_ok_iff.mpr ⟨hrange, hword.symm ▸ hr⟩⟩
  · exact ⟨(decode_number_eq_ok_iff.mp hread).2, decodeTime_ofInt64 t.seconds⟩
  · exact (decode_number_eq_ok_iff.mp hread).2.mono (decode_number_eq_ok_iff.mp hread').2 hle
  · rw [decode_number_eq_ok_iff, decode_number_eq_ok_iff, hsame]

def halfBefore : Double := ⟨0xbfe0000000000000, by decide⟩

/-- The largest double below the upper end of the range. -/
def lastDouble : Double := ⟨0x43dfffffffffffff, by decide⟩

/-- The double next to it, the upper end itself. -/
def endDouble : Double := ⟨0x43e0000000000000, by decide⟩

theorem value_halfBefore : halfBefore.value = -1 / 2 := by
  have hbits : halfBefore.bits.toNat = 0xbfe0000000000000 := rfl
  rw [Double.value, hbits]
  norm_num

theorem value_lastDouble : lastDouble.value = 9223372036854774784 := by
  have hbits : lastDouble.bits.toNat = 0x43dfffffffffffff := rfl
  rw [Double.value, hbits]
  norm_num

theorem value_endDouble : endDouble.value = 2 ^ 63 := by
  have hbits : endDouble.bits.toNat = 0x43e0000000000000 := rfl
  rw [Double.value, hbits]
  norm_num

/-- The largest double in the range is read as the integer of its value is, and later
than half a second before the epoch, which is read as the epoch.  The next double is
not read. -/
theorem last_double_read :
    let last : Word := ⟨9223372036854774784, by decide, by decide⟩
    let t : Timestamp := ⟨9223372036854774784⟩
    (Number.double lastDouble).value = (Number.word last).value ∧
      Shape.time.decode (Number.word last).toDocument = .ok t ∧
      Shape.time.decode (Number.double lastDouble).toDocument = .ok t ∧
      Shape.time.decode (Shape.time.encode t) = .ok t ∧
      Shape.time.decode (Number.double halfBefore).toDocument = .ok (⟨0⟩ : Timestamp) ∧
      (0 : Int64).toInt ≤ t.seconds.toInt ∧
      ¬∃ u, Shape.time.decode (Number.double endDouble).toDocument = .ok u := by
  intro last t
  have hvalue : (Number.double lastDouble).value = (Number.word last).value := value_lastDouble
  have hword : Shape.time.decode (Number.word last).toDocument = .ok t := by rfl
  have hhalf : Shape.time.decode (Number.double halfBefore).toDocument =
      .ok (⟨0⟩ : Timestamp) := by rfl
  have hle : (Number.double halfBefore).value ≤ (Number.double lastDouble).value := by
    rw [Number.value, Number.value, value_halfBefore, value_lastDouble]
    norm_num
  have hend : (Number.double endDouble).value = 2 ^ 63 := value_endDouble
  obtain ⟨-, htruncated, -, hsame⟩ := read_from_number (.double lastDouble) (.word last)
  obtain ⟨-, -, hmonotone, -⟩ := read_from_number (.double halfBefore) (.double lastDouble)
  obtain ⟨hrange, -⟩ := read_from_number (.double endDouble) (.word last)
  have hdouble := (hsame hvalue t).mpr hword
  refine ⟨hvalue, hword, hdouble, (htruncated t hdouble).2, hhalf, ?_, ?_⟩
  · exact hmonotone _ _ hhalf hdouble hle
  · rw [hrange, hend]
    exact fun h => lt_irrefl _ h.2

end Timestamp

end DeviceLink
