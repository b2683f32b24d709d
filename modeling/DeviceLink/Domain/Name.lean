import DeviceLink.Domain.Direction
import DeviceLink.Domain.Joining
import DeviceLink.Domain.Punycode
import DeviceLink.Text.Split

/-!
# Domain names

A domain name is a sequence of labels with full stops between them.  It is read
with the text that stands for each of its characters, in composed form.  A label
that begins with `xn--` is encoded; decoding it must give a text that could not be
written without the encoding and that reading leaves as it is.

Labels may be empty.  None begins with a mark, joiners stand only where they have
their places, and if some label makes the directions of the name matter, every
label has one direction.
-/

namespace DeviceLink.Domain

abbrev Label := List Char

def isForbidden (c : Char) : Bool :=
  c.toNat ≤ 0x20 || c.toNat = 0x7f || "%#/:<>?@[\\]^|".toList.contains c

def isAscii (c : Char) : Bool := c.toNat < 0x80

def encodedPart? : Label → Option (List Char)
  | 'x' :: 'n' :: '-' :: '-' :: rest => some rest
  | _ => none

/-- The longest part that is decoded.  Decoding takes time that grows with the square
of the length. -/
def longestEncoded : Nat := 2000

def longestDecoded : Nat := 1000

def isSettled (cs : List Char) : Bool := cs.all isPlain && composed cs = cs

/-- The text of a label.  An encoded one has to be necessary: its text holds more
than ASCII, is settled, and does not look like an encoded label itself. -/
def labelText? (label : Label) : Option (List Char) :=
  match encodedPart? label with
  | none => if label.all isAscii ∨ label.length ≤ longestDecoded then some label else none
  | some part => do
    if part.all isAscii ∧ part.length ≤ longestEncoded then
      let text ← Punycode.decode? part
      if !text.all isAscii && isSettled text && (encodedPart? text).isNone then some text else none
    else none

def isWellFormed (text : List Char) : Bool :=
  !text.head?.any Text.isMark && joinersHavePlaces [] text

def read? (cs : List Char) : Option (List Char) :=
  (cs.mapM image?).map fun images => composed images.flatten

/-- The labels of a name, encoded ones as they are written; none if the text is no
name of a host. -/
def labels? (cs : List Char) : Option (List Label) := do
  let name ← read? cs
  if name.any isForbidden then none
  else
    let labels := Text.splitAll (· = '.') name
    let texts ← labels.mapM labelText?
    if texts.all isWellFormed && (!texts.any runsLeft || texts.all hasOneDirection) then some labels
    else none

end DeviceLink.Domain
