import DeviceLink.Document.Basic

/-!
# Reading documents

The reader takes exactly the texts that the JSON standard allows, with one value
and nothing but blanks around it.  Three rules go beyond the grammar: arrays and
objects nest at most `nestingLimit` deep, escapes must spell characters (half of
a surrogate pair is none), and a number must not be infinite.  Of several
members with one key the last counts.

A failure carries no detail, since callers only tell readable payloads from
unreadable ones.

Every reading function takes characters from the front and returns what is
left.  Those that call each other also take fuel; each call that passes it on
has taken a character or is the first in its array or object, so twice the
length of the text is always enough.
-/

namespace DeviceLink.Document

def nestingLimit : Nat := 127

def isBlank (c : Char) : Bool :=
  c == ' ' || c == '\t' || c == '\n' || c == '\r'

def skipBlanks (cs : List Char) : List Char := cs.dropWhile isBlank

def digit? (c : Char) : Option Nat :=
  if c.isDigit then some (c.toNat - '0'.toNat) else none

def hexDigit? (c : Char) : Option Nat :=
  if c.isDigit then some (c.toNat - '0'.toNat)
  else if 'a' ≤ c && c ≤ 'f' then some (c.toNat - 'a'.toNat + 10)
  else if 'A' ≤ c && c ≤ 'F' then some (c.toNat - 'A'.toNat + 10)
  else none

def takeDigits : List Char → List Nat × List Char
  | [] => ([], [])
  | c :: rest =>
    match digit? c with
    | none => ([], c :: rest)
    | some d =>
      let (ds, rest) := takeDigits rest
      (d :: ds, rest)

def takeDigits? (cs : List Char) : Option (List Nat × List Char) :=
  match takeDigits cs with
  | ([], _) => none
  | (ds, rest) => some (ds, rest)

/-- The digits before the point: a zero stands alone. -/
def readWhole (cs : List Char) : Option (List Nat × List Char) :=
  match takeDigits? cs with
  | some (0 :: _ :: _, _) => none
  | found => found

def readFraction : List Char → Option (Option (List Nat) × List Char)
  | '.' :: rest => (takeDigits? rest).map fun (ds, rest) => (some ds, rest)
  | cs => some (none, cs)

/-- The sign of an exponent; `true` means that it is negative. -/
def readExponentSign : List Char → Bool × List Char
  | '+' :: rest => (false, rest)
  | '-' :: rest => (true, rest)
  | cs => (false, cs)

def readExponent (cs : List Char) : Option (Option (Bool × List Nat) × List Char) :=
  match cs with
  | c :: rest =>
    if c == 'e' || c == 'E' then
      let (down, rest) := readExponentSign rest
      (takeDigits? rest).map fun (ds, rest) => (some (down, ds), rest)
    else some (none, cs)
  | [] => some (none, [])

def readNumeral (cs : List Char) : Option (Numeral × List Char) := do
  let (negative, cs) := match cs with
    | '-' :: rest => (true, rest)
    | cs => (false, cs)
  let (whole, cs) ← readWhole cs
  let (fraction, cs) ← readFraction cs
  let (exponent, cs) ← readExponent cs
  some (⟨negative, whole, fraction, exponent⟩, cs)

def readNumber (cs : List Char) : Option (Document × List Char) := do
  let (numeral, rest) ← readNumeral cs
  match ← numeral.value? with
  | .word n => some (Document.word n, rest)
  | .double x => some (Document.double x, rest)

def hexQuad? (a b c d : Char) : Option Nat := do
  let a ← hexDigit? a
  let b ← hexDigit? b
  let c ← hexDigit? c
  let d ← hexDigit? d
  some (((a * 16 + b) * 16 + c) * 16 + d)

/-- The character that one escaped number spells, if it needs no second one. -/
def escapedChar? (n : Nat) : Option Char :=
  if h : n.isValidChar then some (Char.ofNatAux n h) else none

/-- The character that a pair of escaped numbers spells: each gives ten bits. -/
def surrogatePair? (high low : Nat) : Option Char :=
  if 0xd800 ≤ high ∧ high < 0xdc00 ∧ 0xdc00 ≤ low ∧ low < 0xe000 then
    escapedChar? (0x10000 + (high - 0xd800) * 0x400 + (low - 0xdc00))
  else none

def shortEscape? : Char → Option Char
  | '"' => some '"'
  | '\\' => some '\\'
  | '/' => some '/'
  | 'b' => some '\x08'
  | 'f' => some '\x0c'
  | 'n' => some '\n'
  | 'r' => some '\r'
  | 't' => some '\t'
  | _ => none

/-- The characters of a text up to its closing quote, after those already
found, which are given last one first. -/
def readChars (found : List Char) : List Char → Option (List Char × List Char)
  | [] => none
  | '"' :: rest => some (found.reverse, rest)
  | '\\' :: 'u' :: a :: b :: c :: d :: '\\' :: 'u' :: e :: f :: g :: h :: rest =>
    match hexQuad? a b c d with
    | none => none
    | some n =>
      match escapedChar? n with
      | some ch => readChars (ch :: found) ('\\' :: 'u' :: e :: f :: g :: h :: rest)
      | none =>
        match hexQuad? e f g h with
        | none => none
        | some m =>
          match surrogatePair? n m with
          | none => none
          | some ch => readChars (ch :: found) rest
  | '\\' :: 'u' :: a :: b :: c :: d :: rest =>
    match (hexQuad? a b c d).bind escapedChar? with
    | none => none
    | some ch => readChars (ch :: found) rest
  | '\\' :: c :: rest =>
    match shortEscape? c with
    | none => none
    | some ch => readChars (ch :: found) rest
  | c :: rest => if c.toNat < 0x20 then none else readChars (c :: found) rest

def readText (cs : List Char) : Option (String × List Char) :=
  (readChars [] cs).map fun (found, rest) => (String.ofList found, rest)

def expect (word : List Char) (cs : List Char) : Option (List Char) :=
  match word, cs with
  | [], cs => some cs
  | w :: ws, c :: rest => if w == c then expect ws rest else none
  | _ :: _, [] => none

mutual

/-- A value from its first character on; `depth` is how many more arrays and
objects may open. -/
def readValue (depth : Nat) : (fuel : Nat) → List Char → Option (Document × List Char)
  | 0, _ => none
  | fuel + 1, cs =>
    match cs with
    | 'n' :: rest => (expect ['u', 'l', 'l'] rest).map fun rest => (null, rest)
    | 't' :: rest => (expect ['r', 'u', 'e'] rest).map fun rest => (bool true, rest)
    | 'f' :: rest => (expect ['a', 'l', 's', 'e'] rest).map fun rest => (bool false, rest)
    | '"' :: rest => (readText rest).map fun (s, rest) => (text s, rest)
    | '[' :: rest =>
      if depth = 0 then none
      else
        match skipBlanks rest with
        | ']' :: rest => some (array [], rest)
        | rest => (readItems (depth - 1) fuel rest).map fun (items, rest) => (array items, rest)
    | '\x7b' :: rest =>
      if depth = 0 then none
      else
        match skipBlanks rest with
        | '\x7d' :: rest => some (object Dict.empty, rest)
        | rest =>
          (readMembers (depth - 1) fuel rest).map fun (members, rest) => (ofMembers members, rest)
    | cs => readNumber cs

def readItems (depth : Nat) : (fuel : Nat) → List Char → Option (List Document × List Char)
  | 0, _ => none
  | fuel + 1, cs =>
    match readValue depth fuel cs with
    | none => none
    | some (item, rest) =>
      match skipBlanks rest with
      | ']' :: rest => some ([item], rest)
      | ',' :: rest =>
        (readItems depth fuel (skipBlanks rest)).map fun (items, rest) => (item :: items, rest)
      | _ => none

def readMembers (depth : Nat) :
    (fuel : Nat) → List Char → Option (List (String × Document) × List Char)
  | 0, _ => none
  | fuel + 1, cs =>
    match cs with
    | '"' :: rest =>
      match readText rest with
      | none => none
      | some (key, rest) =>
        match skipBlanks rest with
        | ':' :: rest =>
          match readValue depth fuel (skipBlanks rest) with
          | none => none
          | some (value, rest) =>
            match skipBlanks rest with
            | '\x7d' :: rest => some ([(key, value)], rest)
            | ',' :: rest =>
              (readMembers depth fuel (skipBlanks rest)).map fun (members, rest) =>
                ((key, value) :: members, rest)
            | _ => none
        | _ => none
    | _ => none

end

def ofText? (s : String) : Option Document :=
  let cs := s.toList
  match readValue nestingLimit (2 * cs.length + 2) (skipBlanks cs) with
  | some (d, rest) => if skipBlanks rest = [] then some d else none
  | none => none

/-- The document that a payload spells; payloads are UTF-8 without a byte order
mark. -/
def ofPayload? (payload : ByteArray) : Option Document :=
  (String.fromUTF8? payload).bind ofText?

end DeviceLink.Document
