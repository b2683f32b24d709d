import DeviceLink.Domain.Name
import DeviceLink.Text.Percent

/-!
# Hosts

The host of a URL is an IPv6 address between brackets, or else a name.  On the
web a name that ends in a number is an IPv4 address, and any other is a domain
name.  Elsewhere names have no structure.
-/

namespace DeviceLink

inductive HostError
  | empty
  | invalidCharacter
  | invalidName
  | invalidIpv4
  | invalidIpv6
deriving DecidableEq, Repr

def HostError.message : HostError → String
  | empty => "empty host"
  | invalidCharacter => "invalid domain character"
  | invalidName => "invalid international domain name"
  | invalidIpv4 => "invalid IPv4 address"
  | invalidIpv6 => "invalid IPv6 address"

namespace Host

/-! ## IPv6 addresses -/

/-- One group of an IPv6 address: one to four hexadecimal digits. -/
def ipv6Group? (cs : List Char) : Option Nat :=
  let digit? (c : Char) : Option Nat := (Text.hexValue? c.toNat.toUInt8).map UInt8.toNat
  if cs = [] ∨ 4 < cs.length ∨ cs.any (fun c => 0x80 ≤ c.toNat) then none
  else cs.foldl (fun n c => do some ((← n) * 16 + (← digit? c))) (some 0)

/-- One number of a dotted address: no leading zeros, at most 255. -/
def dottedPart? (cs : List Char) : Option Nat :=
  if cs = [] ∨ cs.any (fun c => !c.isDigit) ∨ (1 < cs.length ∧ cs.head? = some '0') ∨
      3 < cs.length then none
  else
    let n := cs.foldl (fun n c => n * 10 + (c.toNat - 48)) 0
    if n ≤ 255 then some n else none

def dottedGroups? (cs : List Char) : Option (List Nat) :=
  match (Text.splitAll (· = '.') cs).map dottedPart? with
  | [some a, some b, some c, some d] => some [a * 256 + b, c * 256 + d]
  | _ => none

/-- Groups with colons between them; the last may be a dotted address. -/
def ipv6Groups? : List (List Char) → Option (List Nat)
  | [] => some []
  | [last] => if last.contains '.' then dottedGroups? last else (ipv6Group? last).map ([·])
  | part :: rest => do some ((← ipv6Group? part) :: (← ipv6Groups? rest))

/-- Groups of one side of the gap; an empty side has none. -/
def ipv6Side? (cs : List Char) : Option (List Nat) :=
  if cs = [] then some [] else ipv6Groups? (Text.splitAll (· = ':') cs)

def splitGap : List Char → List Char × Option (List Char)
  | ':' :: ':' :: rest => ([], some rest)
  | c :: rest =>
    let (before, after) := splitGap rest
    (c :: before, after)
  | [] => ([], none)

/-- The eight groups of an IPv6 address.  A gap stands for one or more groups of
zero. -/
def ipv6Address? (cs : List Char) : Option (List Nat) :=
  match splitGap cs with
  | (all, none) => do
    let groups ← ipv6Side? all
    if groups.length = 8 then some groups else none
  | (before, some after) => do
    let left ← ipv6Side? before
    let right ← ipv6Side? after
    if before.contains '.' ∨ 7 < left.length + right.length then none
    else some (left ++ List.replicate (8 - left.length - right.length) 0 ++ right)

/-- The longest run of zeros from each place on: where it starts and how long. -/
def longestZeros (groups : List Nat) : Nat × Nat :=
  let runs := (List.range groups.length).map fun i =>
    (i, ((groups.drop i).takeWhile (· = 0)).length)
  runs.foldl (fun best run => if best.2 < run.2 then run else best) (0, 0)

/-- The shortest text of an IPv6 address: the first of the longest runs of at
least two zeros becomes a gap. -/
def ipv6Text (groups : List Nat) : String :=
  let hex (gs : List Nat) : String :=
    ":".intercalate (gs.map fun g => String.ofList (Nat.toDigits 16 g))
  let (start, length) := longestZeros groups
  if length < 2 then hex groups
  else hex (groups.take start) ++ "::" ++ hex (groups.drop (start + length))

/-- An address between brackets; the first bracket has been read. -/
def bracketed (cs : List Char) : Except HostError String :=
  match cs.getLast?, ipv6Address? cs.dropLast with
  | some ']', some groups => .ok ("[" ++ ipv6Text groups ++ "]")
  | _, _ => .error .invalidIpv6

/-! ## Names -/

def isForbiddenInName (c : Char) : Bool :=
  "\x00\t\n\r #/:<>?@[\\]^|".toList.contains c

/-- A name without structure: any text without the characters that it must not
hold. -/
def plainName (cs : List Char) : Except HostError String :=
  if cs.any isForbiddenInName then .error .invalidCharacter
  else .ok (Text.percentEncode (fun c => 0x20 ≤ c.toNat && c.toNat ≤ 0x7e) (String.ofList cs))

/-- The host of a URL whose scheme is not one of the web's. -/
def plain (cs : List Char) : Except HostError String :=
  match cs with
  | '[' :: rest => bracketed rest
  | cs => plainName cs

/-! ## IPv4 addresses -/

/-- A number in a base, no digits being zero. -/
def number? (base : Nat) (cs : List Char) : Option Nat :=
  let digit? (c : Char) : Option Nat :=
    if 0x80 ≤ c.toNat then none
    else ((Text.hexValue? c.toNat.toUInt8).map UInt8.toNat).filter (· < base)
  cs.foldl (fun n c => do some ((← n) * base + (← digit? c))) (some 0)

/-- One number of an IPv4 address: hexadecimal behind `0x`, octal behind another
zero, and decimal otherwise. -/
def ipv4Number? (cs : List Char) : Option Nat :=
  match cs with
  | [] => none
  | '0' :: 'x' :: rest => number? 16 rest
  | '0' :: c :: rest => number? 8 (c :: rest)
  | cs => number? 10 cs

def withoutRoot (labels : List Domain.Label) : List Domain.Label :=
  if labels.getLast? = some [] then labels.dropLast else labels

/-- Whether the last label shows that the labels are meant as an address. -/
def endsInNumber (labels : List Domain.Label) : Bool :=
  match (withoutRoot labels).getLast? with
  | none => false
  | some last => (last ≠ [] && last.all Char.isDigit) || (ipv4Number? last).isSome

/-- The address that one to four numbers make.  The last fills all the bytes that
the others leave. -/
def ipv4Address? (labels : List Domain.Label) : Option Nat := do
  let numbers ← (withoutRoot labels).mapM ipv4Number?
  let high := numbers.dropLast
  let last ← numbers.getLast?
  let room := 4 - high.length
  if high.length < 4 ∧ high.all (· < 256) ∧ last < Nat.pow 256 room then
    some (high.foldl (fun n b => n * 256 + b) 0 * Nat.pow 256 room + last)
  else none

def ipv4Text (n : Nat) : String :=
  ".".intercalate ([3, 2, 1, 0].map fun i => toString (n / Nat.pow 256 i % 256))

/-! ## Hosts of the web -/

/-- A domain name or an IPv4 address.  What is left of the text when it is read must
not be nothing. -/
def webName (cs : List Char) : Except HostError String := do
  let bytes := Text.percentDecode (String.ofList cs).toUTF8.toList
  let some text := String.fromUTF8? ⟨bytes.toArray⟩ | .error .invalidName
  let some labels := Domain.labels? text.toList | .error .invalidName
  if labels = [[]] then .error .empty
  else if endsInNumber labels then
    match ipv4Address? labels with
    | some n => .ok (ipv4Text n)
    | none => .error .invalidIpv4
  else .ok (".".intercalate (labels.map String.ofList))

def web (cs : List Char) : Except HostError String :=
  match cs with
  | '[' :: rest => bracketed rest
  | cs => webName cs

end Host

end DeviceLink
