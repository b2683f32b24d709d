import DeviceLink.Document.Printer
import DeviceLink.Document.Reader

/-!
# Texts read back

Each character of a text is read from what was written for it, whatever stands
behind: itself, a backslash with one character, or an escaped number.
-/

namespace DeviceLink.Document

theorem hexDigit?_hexDigit : ∀ n < 16, hexDigit? (hexDigit n) = some n := by
  decide

/-- Two digits are enough for every character that is escaped by number. -/
theorem hexQuad?_hexDigit {n : Nat} (h : n < 0x20) :
    hexQuad? '0' '0' (hexDigit (n / 16)) (hexDigit (n % 16)) = some n := by
  have hzero : hexDigit? '0' = some 0 := hexDigit?_hexDigit 0 (by decide)
  have hhigh := hexDigit?_hexDigit (n / 16) (by omega)
  have hlow := hexDigit?_hexDigit (n % 16) (by omega)
  have hn : n / 16 * 16 + n % 16 = n := by omega
  simp [hexQuad?, hzero, hhigh, hlow, hn]

theorem escapedChar?_toNat (c : Char) : escapedChar? c.toNat = some c := by
  have hvalid : c.toNat.isValidChar := c.valid
  rw [escapedChar?, dif_pos hvalid]
  rfl

/-- An escaped number that is a character is read as this character; a second
escaped number behind it makes no difference. -/
theorem readChars_number {a b c d ch : Char} {n : Nat} (number : hexQuad? a b c d = some n)
    (spelled : escapedChar? n = some ch) (found rest : List Char) :
    readChars found ('\\' :: 'u' :: a :: b :: c :: d :: rest) = readChars (ch :: found) rest := by
  by_cases second : ∃ e f g h more, rest = '\\' :: 'u' :: e :: f :: g :: h :: more
  · obtain ⟨e, f, g, h, more, rfl⟩ := second
    simp only [readChars.eq_3, number, spelled]
  · have honly : ∀ e f g h more, rest = '\\' :: 'u' :: e :: f :: g :: h :: more → False :=
      fun e f g h more heq => second ⟨e, f, g, h, more, heq⟩
    simp only [readChars.eq_4 _ _ _ _ _ _ honly, number, Option.bind_some, spelled]

theorem readChars_short {x ch : Char} (short : shortEscape? x = some ch)
    (found rest : List Char) :
    readChars found ('\\' :: x :: rest) = readChars (ch :: found) rest := by
  have hx : x ≠ 'u' := by
    rintro rfl
    cases short
  rw [readChars.eq_5 found x rest (fun _ _ _ _ _ _ _ _ _ h _ => hx h) (fun _ _ _ _ _ h _ => hx h),
    short]

theorem readChars_plain {c : Char} (noQuote : c ≠ '"') (noEscape : c ≠ '\\')
    (noControl : ¬ c.toNat < 0x20) (found rest : List Char) :
    readChars found (c :: rest) = readChars (c :: found) rest := by
  rw [readChars.eq_6 found c rest noQuote (fun _ _ _ _ _ _ _ _ _ h _ => noEscape h)
    (fun _ _ _ _ _ h _ => noEscape h) (fun _ _ h _ => noEscape h), if_neg noControl]

theorem readChars_escape (c : Char) (found rest : List Char) :
    readChars found (escape c ++ rest) = readChars (c :: found) rest := by
  rw [escape.eq_def]
  split
  · exact readChars_short rfl found rest
  · exact readChars_short rfl found rest
  · exact readChars_short rfl found rest
  · exact readChars_short rfl found rest
  · exact readChars_short rfl found rest
  · exact readChars_short rfl found rest
  · exact readChars_short rfl found rest
  · next noQuote noEscape _ _ _ _ _ =>
      split
      · next control =>
          exact readChars_number (hexQuad?_hexDigit control) (escapedChar?_toNat c) found rest
      · next noControl => exact readChars_plain noQuote noEscape noControl found rest

theorem readChars_flatMap (cs found rest : List Char) :
    readChars found (cs.flatMap escape ++ '"' :: rest) = some (found.reverse ++ cs, rest) := by
  induction cs generalizing found with
  | nil => simp [readChars]
  | cons c cs ih =>
      rw [List.flatMap_cons, List.append_assoc, readChars_escape, ih]
      simp

/-- A text is read from what was written after its opening quote. -/
theorem readText_escape (s : String) (rest : List Char) :
    readText (s.toList.flatMap escape ++ '"' :: rest) = some (s, rest) := by
  rw [readText, readChars_flatMap]
  simp

end DeviceLink.Document
