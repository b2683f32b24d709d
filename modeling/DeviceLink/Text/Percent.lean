/-!
# Percent-encoded text

Addresses write bytes that they cannot hold as `%` and two hexadecimal digits.
Decoding works on bytes; what it yields need not be UTF-8, and each part that is
not becomes one replacement character.
-/

namespace DeviceLink.Text

def hexValue? (b : UInt8) : Option UInt8 :=
  if 0x30 ≤ b ∧ b ≤ 0x39 then some (b - 0x30)
  else if 0x61 ≤ b ∧ b ≤ 0x66 then some (b - 0x61 + 10)
  else if 0x41 ≤ b ∧ b ≤ 0x46 then some (b - 0x41 + 10)
  else none

/-- Replaces each percent sign with two digits by the byte it stands for; any
other percent sign stands for itself. -/
def percentDecode : List UInt8 → List UInt8
  | [] => []
  | 0x25 :: a :: b :: rest =>
    match hexValue? a, hexValue? b with
    | some high, some low => (high * 16 + low) :: percentDecode rest
    | _, _ => 0x25 :: percentDecode (a :: b :: rest)
  | b :: rest => b :: percentDecode rest
termination_by bytes => bytes.length

/-- Writes the bytes of the characters that a place does not admit with percent
signs, in upper case. -/
def percentEncode (admits : Char → Bool) (s : String) : String :=
  let hex (n : Nat) : Char := (Nat.digitChar n).toUpper
  let encode (c : Char) : List Char :=
    if admits c then [c]
    else c.toString.toUTF8.toList.flatMap fun b => ['%', hex (b.toNat / 16), hex (b.toNat % 16)]
  String.ofList (s.toList.flatMap encode)

/-- How many bytes follow the first one of a character, and the bounds of the
byte that follows first.  The bounds leave out forms that are too long, halves
of surrogate pairs, and numbers beyond the last character. -/
def sequenceForm? (b : UInt8) : Option (Nat × UInt8 × UInt8) :=
  if 0xc2 ≤ b ∧ b ≤ 0xdf then some (1, 0x80, 0xbf)
  else if b = 0xe0 then some (2, 0xa0, 0xbf)
  else if b = 0xed then some (2, 0x80, 0x9f)
  else if 0xe1 ≤ b ∧ b ≤ 0xef then some (2, 0x80, 0xbf)
  else if b = 0xf0 then some (3, 0x90, 0xbf)
  else if 0xf1 ≤ b ∧ b ≤ 0xf3 then some (3, 0x80, 0xbf)
  else if b = 0xf4 then some (3, 0x80, 0x8f)
  else none

/-- Takes the wanted number of following bytes, the first one within the bounds.
Gives the bits found, how many bytes are still missing, and the rest. -/
def takeFollowing (bits : Nat) (low high : UInt8) : (wanted : Nat) → List UInt8 →
    Nat × Nat × List UInt8
  | 0, bytes => (bits, 0, bytes)
  | wanted + 1, [] => (bits, wanted + 1, [])
  | wanted + 1, b :: rest =>
    if low ≤ b ∧ b ≤ high then
      takeFollowing (bits * 64 + b.toNat % 64) 0x80 0xbf wanted rest
    else (bits, wanted + 1, b :: rest)

theorem length_takeFollowing (bits : Nat) (low high : UInt8) (wanted : Nat)
    (bytes : List UInt8) :
    (takeFollowing bits low high wanted bytes).2.2.length ≤ bytes.length := by
  induction wanted generalizing bits low high bytes with
  | zero => simp [takeFollowing]
  | succ n ih =>
    cases bytes with
    | nil => simp [takeFollowing]
    | cons b rest =>
      simp only [takeFollowing]
      split
      · exact Nat.le_succ_of_le (ih _ _ _ _)
      · simp

/-- The characters of bytes that ought to be UTF-8.  The longest piece that
begins a character without finishing it becomes one replacement character, and
so does every other byte that fits nowhere. -/
def decodeLossy : List UInt8 → List Char
  | [] => []
  | b :: rest =>
    if b < 0x80 then Char.ofNat b.toNat :: decodeLossy rest
    else
      match sequenceForm? b with
      | none => '\ufffd' :: decodeLossy rest
      | some (wanted, low, high) =>
        let lead := b.toNat % (if wanted = 1 then 32 else if wanted = 2 then 16 else 8)
        match h : takeFollowing lead low high wanted rest with
        | (bits, missing, rest') =>
          have : rest'.length ≤ rest.length := by
            have := length_takeFollowing lead low high wanted rest
            rw [h] at this
            exact this
          (if missing = 0 then Char.ofNat bits else '\ufffd') :: decodeLossy rest'
termination_by bytes => bytes.length
decreasing_by all_goals simp only [List.length_cons]; omega

/-- Reads one name or value of a form: a plus sign is a space, then percent signs
are decoded. -/
def formDecode (s : String) : String :=
  let bytes := s.toUTF8.toList.map fun b => if b = 0x2b then 0x20 else b
  String.ofList (decodeLossy (percentDecode bytes))

end DeviceLink.Text
