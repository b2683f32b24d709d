import DeviceLink.Document.Printer
import DeviceLink.Document.Reader
import Mathlib.Data.Nat.Digits.Lemmas

/-!
# Integers read back

An integer is written with its decimal digits and no more, so the reader takes
exactly these digits when nothing follows that could be part of a number.  The
digits of a word never overflow while they are collected, so the numeral keeps
its value and is not turned into a double.
-/

namespace DeviceLink.Document

/-- Nothing at the front would continue a number. -/
def EndsNumber : List Char → Prop
  | [] => True
  | c :: _ => c.isDigit = false ∧ c ≠ '.' ∧ c ≠ 'e' ∧ c ≠ 'E'

def decimals (n : Nat) : List Nat := (Nat.toDigits 10 n).map fun c => c.toNat - '0'.toNat

/-! ## Taking the digits -/

theorem takeDigits_append {cs rest : List Char} (digits : ∀ c ∈ cs, c.isDigit = true)
    (ends : EndsNumber rest) :
    takeDigits (cs ++ rest) = (cs.map fun c => c.toNat - '0'.toNat, rest) := by
  induction cs with
  | nil =>
      cases rest with
      | nil => rfl
      | cons c rest =>
          have hdigit : digit? c = none := by rw [digit?, ends.1]; rfl
          show takeDigits (c :: rest) = _
          simp only [takeDigits, hdigit, List.map_nil]
  | cons c cs ih =>
      have hdigit : digit? c = some (c.toNat - '0'.toNat) := by
        rw [digit?, digits c List.mem_cons_self]
        rfl
      have hrest := ih fun c hc => digits c (List.mem_cons_of_mem _ hc)
      simp only [List.cons_append, takeDigits, hdigit, hrest, List.map_cons]

theorem decimals_of_lt {n : Nat} (small : n < 10) : decimals n = [n] := by
  have hzero : '0'.toNat = 48 := rfl
  rw [decimals, Nat.toDigits_of_lt_base small, List.map_singleton,
    Nat.toNat_digitChar_of_lt_ten small, hzero, Nat.add_sub_cancel_left]

theorem decimals_of_le {n : Nat} (large : 10 ≤ n) :
    decimals n = decimals (n / 10) ++ [n % 10] := by
  have hlast : decimals (n % 10) = [n % 10] := decimals_of_lt (by omega)
  rw [decimals, Nat.toDigits_of_lt_base (by omega)] at hlast
  rw [decimals, Nat.toDigits_of_base_le (by decide) large, List.map_append, hlast]
  rfl

theorem decimals_ne_nil (n : Nat) : decimals n ≠ [] := by
  intro h
  exact Nat.toDigits_ne_nil (List.map_eq_nil_iff.mp h)

/-- A number above zero is written without a zero in front. -/
theorem head_decimals {n : Nat} (pos : 0 < n) (ds : List Nat) : decimals n ≠ 0 :: ds := by
  induction n using Nat.strong_induction_on generalizing ds with
  | _ n ih =>
      by_cases small : n < 10
      · rw [decimals_of_lt small]
        intro h
        have hn : n = 0 := (List.cons.inj h).1
        omega
      · rw [decimals_of_le (Nat.le_of_not_lt small)]
        intro h
        cases hfront : decimals (n / 10) with
        | nil => exact decimals_ne_nil _ hfront
        | cons d front =>
            rw [hfront] at h
            obtain ⟨rfl, -⟩ := List.cons.inj h
            exact ih (n / 10) (by omega) (by omega) front hfront

theorem takeDigits?_toDigits (n : Nat) {rest : List Char} (ends : EndsNumber rest) :
    takeDigits? (Nat.toDigits 10 n ++ rest) = some (decimals n, rest) := by
  have htake : takeDigits (Nat.toDigits 10 n ++ rest) = (decimals n, rest) :=
    takeDigits_append (fun c hc => Nat.isDigit_of_mem_toDigits (by decide) (by decide) hc) ends
  simp only [takeDigits?, htake]
  split
  · next h => exact absurd (Prod.mk.inj h).1 (decimals_ne_nil n)
  · next h => rw [h]

theorem readWhole_toDigits (n : Nat) {rest : List Char} (ends : EndsNumber rest) :
    readWhole (Nat.toDigits 10 n ++ rest) = some (decimals n, rest) := by
  rw [readWhole, takeDigits?_toDigits n ends]
  split
  · next h =>
      have hdecimals := (Prod.mk.inj (Option.some.inj h)).1
      rcases Nat.eq_zero_or_pos n with rfl | pos
      · rw [decimals_of_lt (by decide)] at hdecimals
        cases hdecimals
      · exact absurd hdecimals (head_decimals pos _)
  · rfl

theorem readFraction_ends {rest : List Char} (ends : EndsNumber rest) :
    readFraction rest = some (none, rest) := by
  rw [readFraction.eq_def]
  split
  · exact absurd rfl ends.2.1
  · rfl

theorem readExponent_ends {rest : List Char} (ends : EndsNumber rest) :
    readExponent rest = some (none, rest) := by
  cases rest with
  | nil => rfl
  | cons c rest =>
      have hc : ¬ (c == 'e' || c == 'E') = true := by simpa using ends.2.2
      rw [readExponent, if_neg hc]

/-! ## The value of the digits -/

theorem le_foldl_decimals (n : Nat) (ds : List Nat) :
    n ≤ ds.foldl (fun n d => n * 10 + d) n := by
  induction ds generalizing n with
  | nil => exact Nat.le_refl n
  | cons d ds ih => exact Nat.le_trans (by omega) (ih (n * 10 + d))

/-- Digits of a number within the limit are all collected. -/
theorem absorb_eq {limit n : Nat} {ds : List Nat}
    (h : ds.foldl (fun n d => n * 10 + d) n ≤ limit) :
    Numeral.absorb limit n ds = (ds.foldl (fun n d => n * 10 + d) n, []) := by
  induction ds generalizing n with
  | nil => rfl
  | cons d ds ih =>
      have hd : n * 10 + d ≤ limit := Nat.le_trans (le_foldl_decimals _ ds) h
      rw [Numeral.absorb, if_pos hd, ih h]
      rfl

theorem foldl_decimals (n : Nat) : (decimals n).foldl (fun n d => n * 10 + d) 0 = n := by
  have h : Nat.ofDigitChars 10 (Nat.toDigits 10 n) 0 = n :=
    Nat.ofDigitChars_toDigits (by decide) (by decide)
  rw [Nat.ofDigitChars] at h
  rw [decimals, List.foldl_map]
  simpa only [Nat.mul_comm] using h

def numeralOf (n : Int) : Numeral := ⟨decide (n < 0), decimals n.natAbs, none, none⟩

theorem value?_numeralOf (w : Word) : (numeralOf w.val).value? = some (.word w) := by
  have hlower := w.lower
  have hupper := w.upper
  have hlimit : w.val.natAbs ≤ Numeral.wordLimit := by
    unfold Numeral.wordLimit
    omega
  have habsorb : Numeral.absorb Numeral.wordLimit 0 (decimals w.val.natAbs) =
      (w.val.natAbs, []) := by
    rw [absorb_eq (by rw [foldl_decimals]; exact hlimit), foldl_decimals]
  have hzero : w.val < 0 → ¬ w.val = 0 := by omega
  have hsigned : (if w.val < 0 then -(w.val.natAbs : Int) else w.val.natAbs) = w.val := by
    split <;> omega
  have hword : Word.ofInt? w.val = some w := by rw [Word.ofInt?, dif_pos ⟨hlower, hupper⟩]
  simp only [Numeral.value?, numeralOf, habsorb, decide_eq_true_eq, hsigned, hword]
  simpa using hzero

/-! ## Reading a word -/

theorem ne_minus_of_isDigit {cs rest : List Char} (digits : ∀ c ∈ cs, c.isDigit = true)
    (some_digit : cs ≠ []) (more : List Char) : cs ++ rest ≠ '-' :: more := by
  cases cs with
  | nil => exact absurd rfl some_digit
  | cons c cs =>
      intro h
      obtain ⟨rfl, -⟩ := List.cons.inj h
      exact absurd (digits '-' List.mem_cons_self) (by decide)

theorem readNumeral_writeInt (n : Int) {rest : List Char} (ends : EndsNumber rest) :
    readNumeral (writeInt n ++ rest) = some (numeralOf n, rest) := by
  have hwhole := readWhole_toDigits n.natAbs ends
  by_cases negative : n < 0
  · have hwrite : writeInt n ++ rest = '-' :: (Nat.toDigits 10 n.natAbs ++ rest) := by
      rw [writeInt, if_pos negative, List.cons_append]
    rw [hwrite, readNumeral]
    simp [numeralOf, negative, hwhole, readFraction_ends ends, readExponent_ends ends]
  · have hunsigned : ∀ more, Nat.toDigits 10 n.natAbs ++ rest ≠ '-' :: more :=
      ne_minus_of_isDigit (fun c hc => Nat.isDigit_of_mem_toDigits (by decide) (by decide) hc)
        Nat.toDigits_ne_nil
    rw [writeInt, if_neg negative, readNumeral.eq_2 _ hunsigned]
    simp [numeralOf, negative, hwhole, readFraction_ends ends, readExponent_ends ends]

/-- A word is read from its digits. -/
theorem readNumber_writeInt (w : Word) {rest : List Char} (ends : EndsNumber rest) :
    readNumber (writeInt w.val ++ rest) = some (word w, rest) := by
  rw [readNumber, readNumeral_writeInt w.val ends]
  simp [value?_numeralOf]

end DeviceLink.Document
