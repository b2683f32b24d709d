import DeviceLink.Timestamp

/-!
# Timestamps and the clock of the system

Every timestamp is an instant of the clock, and reading an instant drops its
fraction toward the epoch, on either side of it and up to both ends of the range.
There is one exception.  The distance of the first instant is one second more than
a signed word can hold: as a word it becomes the least one, which has no negative, so
reading the first instant panics although it is the instant of a timestamp
(`Timestamp.first_instant_not_read`).
-/

namespace DeviceLink

/-! ## Words -/

theorem toInt_toInt64_of_lt {n : UInt64} (small : n.toNat < 0x8000000000000000) :
    n.toInt64.toInt = n.toNat := by
  have hword : n.toInt64.toInt = (n.toNat : Int).bmod (2 ^ 64) := BitVec.toInt_eq_toNat_bmod _
  rw [hword, Int.bmod_eq_of_le (by omega) (by omega)]

/-- The negative of a word that is not the least one is the negative number. -/
theorem toInt_neg_of_ne {n : Int64} (other : n ≠ Int64.minValue) : (-n).toInt = -n.toInt := by
  have hlower := n.le_toInt
  have hupper := n.toInt_lt
  have hother : n.toInt ≠ -2 ^ 63 := fun h => other (Int64.toInt_inj.mp h)
  rw [Int64.toInt_neg, Int.bmod_eq_of_le (by omega) (by omega)]

/-- Whether the seconds of a span are the same number as a signed word. -/
def Span.FitsSigned (s : Span) : Prop := s.seconds.toInt64.toInt = s.seconds.toNat

/-! ## Instants -/

namespace SystemTime

variable {t : SystemTime}

def first : SystemTime where
  nanos := -0x8000000000000000 * 1000000000
  lower := Int.le_refl _
  upper := by decide

def distance (t : SystemTime) : Span :=
  match t.side with
  | .after s => s
  | .before s => s

theorem eq_of_nanos {u : SystemTime} (same : t.nanos = u.nanos) : t = u := by
  cases t
  cases u
  cases same
  rfl

theorem ofNanos?_nanos (t : SystemTime) : ofNanos? t.nanos = some t :=
  dif_pos ⟨t.lower, t.upper⟩

theorem seconds_spanOf {n : Nat} (bound : n ≤ 0x8000000000000000 * 1000000000) :
    (spanOf n).seconds.toNat = n / 1000000000 := by
  rw [spanOf, UInt64.toNat_ofNat', Nat.mod_eq_of_lt (by omega)]

/-- From the epoch on, an instant has as many whole seconds as its distance. -/
theorem side_of_nonneg (late : 0 ≤ t.nanos) :
    t.side = .after t.distance ∧ t.nanos.tdiv 1000000000 = t.distance.seconds.toNat := by
  have hside : t.side = .after (spanOf t.nanos.toNat) := by rw [side, if_pos late]
  have hupper := t.upper
  refine ⟨by rw [distance, hside], ?_⟩
  rw [distance, hside, seconds_spanOf (by omega), Int.tdiv_eq_ediv_of_nonneg late]
  omega

/-- Before the epoch it is the negative of them. -/
theorem side_of_neg (early : t.nanos < 0) :
    t.side = .before t.distance ∧ t.nanos.tdiv 1000000000 = -t.distance.seconds.toNat := by
  have hside : t.side = .before (spanOf (-t.nanos).toNat) := by
    rw [side, if_neg (Int.not_le.mpr early)]
  have hlower := t.lower
  have hmirror : t.nanos.tdiv 1000000000 = -(-t.nanos / 1000000000) := by
    rw [← Int.tdiv_eq_ediv_of_nonneg (by omega), Int.neg_tdiv, Int.neg_neg]
  refine ⟨by rw [distance, hside], ?_⟩
  rw [distance, hside, seconds_spanOf (by omega), hmirror]
  omega

/-- The distance of every other instant than the first fits. -/
theorem seconds_distance_lt (other : t ≠ first) :
    t.distance.seconds.toNat < 0x8000000000000000 := by
  have hlower := t.lower
  have hupper := t.upper
  have hother : t.nanos ≠ -0x8000000000000000 * 1000000000 := fun h => other (eq_of_nanos h)
  by_cases hsign : 0 ≤ t.nanos
  · rw [distance, side, if_pos hsign, seconds_spanOf (by omega)]
    omega
  · rw [distance, side, if_neg hsign, seconds_spanOf (by omega)]
    omega

end SystemTime

namespace Timestamp

/-! ## From a timestamp to its instant -/

theorem toNat_distance (s : Timestamp) : s.distance.toNat = s.seconds.toInt.natAbs := by
  have hlower := s.seconds.le_toInt
  have hupper := s.seconds.toInt_lt
  rw [distance, UInt64.toNat_ofNat', Nat.mod_eq_of_lt (by omega)]

theorem toNanos_distance (s : Timestamp) :
    Span.toNanos ⟨s.distance, 0, by decide⟩ = s.seconds.toInt.natAbs * 1000000000 := by
  rw [Span.toNanos, toNat_distance, Nat.add_zero]

/-- Every timestamp has an instant, exactly its seconds from the epoch. -/
theorem exists_instant (s : Timestamp) :
    ∃ t, s.toSystemTime = .ok t ∧ t.nanos = s.seconds.toInt * 1000000000 := by
  have hlower := s.seconds.le_toInt
  have hupper := s.seconds.toInt_lt
  obtain ⟨t, ht⟩ : ∃ t : SystemTime, t.nanos = s.seconds.toInt * 1000000000 :=
    ⟨⟨s.seconds.toInt * 1000000000, by omega, by omega⟩, rfl⟩
  have hshown : SystemTime.ofNanos? (s.seconds.toInt * 1000000000) = some t :=
    ht ▸ t.ofNanos?_nanos
  refine ⟨t, ?_, ht⟩
  by_cases hsign : 0 ≤ s.seconds
  · have hnonneg : 0 ≤ s.seconds.toInt := Int64.le_iff_toInt_le.mp hsign
    have hnanos : ((s.seconds.toInt.natAbs * 1000000000 : Nat) : Int) =
        s.seconds.toInt * 1000000000 := by omega
    have hafter : SystemTime.afterEpoch? ⟨s.distance, 0, by decide⟩ = some t := by
      rw [SystemTime.afterEpoch?, toNanos_distance, hnanos, hshown]
    simp only [toSystemTime, if_pos hsign, hafter]
  · have hneg : s.seconds.toInt < 0 :=
      Int.not_le.mp fun h => hsign (Int64.le_iff_toInt_le.mpr h)
    have hnanos : -((s.seconds.toInt.natAbs * 1000000000 : Nat) : Int) =
        s.seconds.toInt * 1000000000 := by omega
    have hbefore : SystemTime.beforeEpoch? ⟨s.distance, 0, by decide⟩ = some t := by
      rw [SystemTime.beforeEpoch?, toNanos_distance, hnanos, hshown]
    simp only [toSystemTime, if_neg hsign, hbefore]

/-! ## From an instant to its timestamp -/

variable {s : Timestamp} {t : SystemTime}

theorem ofSystemTime_of_ne_first (other : t ≠ .first) :
    ∃ s, ofSystemTime t = .ok s ∧ s.seconds.toInt = t.nanos.tdiv 1000000000 := by
  have hsmall := SystemTime.seconds_distance_lt other
  have hfits := toInt_toInt64_of_lt hsmall
  by_cases hsign : 0 ≤ t.nanos
  · obtain ⟨hside, hseconds⟩ := SystemTime.side_of_nonneg hsign
    refine ⟨⟨t.distance.seconds.toInt64⟩, by rw [ofSystemTime, hside], ?_⟩
    rw [hfits, hseconds]
  · obtain ⟨hside, hseconds⟩ := SystemTime.side_of_neg (Int.not_le.mp hsign)
    have hleast : t.distance.seconds.toInt64 ≠ Int64.minValue := by
      intro hleast
      rw [hleast, Int64.toInt_minValue] at hfits
      omega
    refine ⟨⟨-t.distance.seconds.toInt64⟩, ?_, ?_⟩
    · -- The distance fits, so it is not the word without a negative.
      rw [ofSystemTime, hside]
      show (checkedNeg _).map Timestamp.mk = _
      rw [checkedNeg, if_neg hleast, Except.map]
    · rw [toInt_neg_of_ne hleast, hfits, hseconds]

theorem ofSystemTime_first : ofSystemTime .first = .error .negation := by decide

/-- A timestamp that is read is the instant without its fraction. -/
theorem seconds_of_read (read : ofSystemTime t = .ok s) :
    s.seconds.toInt = t.nanos.tdiv 1000000000 := by
  have hother : t ≠ .first := by
    rintro rfl
    rw [ofSystemTime_first] at read
    exact nomatch read
  obtain ⟨s', hread, hseconds⟩ := ofSystemTime_of_ne_first hother
  rw [read] at hread
  rw [Except.ok.inj hread, hseconds]

/-- The instant of a timestamp is read as this timestamp, unless it is the first. -/
theorem read_instant_iff (instant : t.nanos = s.seconds.toInt * 1000000000) :
    ofSystemTime t = .ok s ↔ s.seconds ≠ Int64.minValue := by
  constructor
  · intro hread hleast
    rw [hleast] at instant
    have hfirst : t = .first := SystemTime.eq_of_nanos instant
    rw [hfirst, ofSystemTime_first] at hread
    exact nomatch hread
  · intro hother
    have hne : t ≠ .first := by
      rintro rfl
      have hleast : s.seconds.toInt = Int64.minValue.toInt := by
        rw [Int64.toInt_minValue]
        have hnanos : SystemTime.first.nanos = -0x8000000000000000 * 1000000000 := rfl
        omega
      exact hother (Int64.toInt_inj.mp hleast)
    obtain ⟨s', hread, hseconds⟩ := ofSystemTime_of_ne_first hne
    rw [instant, Int.mul_tdiv_cancel _ (by decide)] at hseconds
    have hsame : s'.seconds = s.seconds := Int64.toInt_inj.mp hseconds
    rw [hread]
    exact congrArg (fun n => Except.ok (Timestamp.mk n)) hsame

/-- Timestamps and instants agree but for the first instant.  Every timestamp has an
instant, exactly its seconds from the epoch.  Every instant but the first is read as
its distance without the fraction, the distance being the same number as a signed
word; so each timestamp but the least comes back, and later instants are not read
as earlier timestamps.  Reading panics at the first instant, and at no other. -/
theorem agrees_with_clock (s : Timestamp) (t u : SystemTime) :
    (s.distance.toNat = s.seconds.toInt.natAbs ∧
      ∃ instant, s.toSystemTime = .ok instant ∧
        instant.nanos = s.seconds.toInt * 1000000000 ∧
        (ofSystemTime instant = .ok s ↔ s.seconds ≠ Int64.minValue)) ∧
    (ofSystemTime t = .error .negation ↔ t = .first) ∧
    (t ≠ .first → t.distance.FitsSigned ∧
      ∃ read, ofSystemTime t = .ok read ∧ read.seconds.toInt = t.nanos.tdiv 1000000000) ∧
    ∀ early late, ofSystemTime t = .ok early → ofSystemTime u = .ok late →
      t.nanos ≤ u.nanos → early.seconds.toInt ≤ late.seconds.toInt := by
  refine ⟨⟨s.toNat_distance, ?_⟩, ?_, ?_, ?_⟩
  · obtain ⟨instant, hinstant, hnanos⟩ := s.exists_instant
    exact ⟨instant, hinstant, hnanos, read_instant_iff hnanos⟩
  · by_cases hfirst : t = .first
    · exact iff_of_true (hfirst ▸ ofSystemTime_first) hfirst
    · obtain ⟨read, hread, -⟩ := ofSystemTime_of_ne_first hfirst
      exact iff_of_false (by rw [hread]; exact nofun) hfirst
  · intro hother
    exact ⟨toInt_toInt64_of_lt (SystemTime.seconds_distance_lt hother),
      ofSystemTime_of_ne_first hother⟩
  · intro early late hearly hlate hle
    rw [seconds_of_read hearly, seconds_of_read hlate]
    exact Int.tdiv_le_tdiv (by decide) hle

/-- The instant just after the first one, and the one just before the epoch. -/
theorem ends_before_epoch_read :
    let early : SystemTime := ⟨SystemTime.first.nanos + 1, by decide, by decide⟩
    let late : SystemTime := ⟨-1, by decide, by decide⟩
    early ≠ .first ∧ ofSystemTime early = .ok ⟨Int64.minValue + 1⟩ ∧
      ofSystemTime late = .ok ⟨0⟩ ∧ early.nanos ≤ late.nanos ∧
      (Int64.minValue + 1).toInt ≤ (0 : Int64).toInt := by
  intro early late
  have hearly : ofSystemTime early = .ok ⟨Int64.minValue + 1⟩ := by decide
  have hlate : ofSystemTime late = .ok ⟨0⟩ := by decide
  have hle : early.nanos ≤ late.nanos := by decide
  obtain ⟨-, -, -, hmonotone⟩ := agrees_with_clock ⟨0⟩ early late
  exact ⟨by decide, hearly, hlate, hle, hmonotone _ _ hearly hlate hle⟩

/-- The first instant is that of the least timestamp, and reading it panics: its
distance does not fit, and the word that it becomes has no negative. -/
theorem first_instant_not_read :
    toSystemTime ⟨Int64.minValue⟩ = .ok .first ∧ ofSystemTime .first = .error .negation ∧
      ¬ SystemTime.first.distance.FitsSigned ∧
      checkedNeg SystemTime.first.distance.seconds.toInt64 = .error .negation := by
  refine ⟨by decide, by decide, ?_, by decide⟩
  unfold Span.FitsSigned
  decide

end Timestamp

end DeviceLink
