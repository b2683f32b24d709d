import DeviceLink.Document.Basic
import DeviceLink.Decimal.Layout

/-!
# Writing documents

Documents are written without blanks.  A text stands between double quotes with
only the characters escaped that may not stand there as they are; everything
else is written as it is, in UTF-8.
-/

namespace DeviceLink

namespace Document

def hexDigit (n : Nat) : Char := Nat.digitChar n

def escape (c : Char) : List Char :=
  match c with
  | '"' => ['\\', '"']
  | '\\' => ['\\', '\\']
  | '\x08' => ['\\', 'b']
  | '\x0c' => ['\\', 'f']
  | '\n' => ['\\', 'n']
  | '\r' => ['\\', 'r']
  | '\t' => ['\\', 't']
  | c =>
    if c.toNat < 0x20 then
      ['\\', 'u', '0', '0', hexDigit (c.toNat / 16), hexDigit (c.toNat % 16)]
    else [c]

def writeText (s : String) : List Char :=
  '"' :: (s.toList.flatMap escape ++ ['"'])

def writeInt (n : Int) : List Char :=
  if n < 0 then '-' :: Nat.toDigits 10 n.natAbs else Nat.toDigits 10 n.natAbs

end Document

namespace Tree

open Document (writeText writeInt)

mutual

def write : Tree → List Char
  | .null => ['n', 'u', 'l', 'l']
  | .bool true => ['t', 'r', 'u', 'e']
  | .bool false => ['f', 'a', 'l', 's', 'e']
  | .word n => writeInt n.val
  | .double x => x.toText.toList
  | .text s => writeText s
  | .array items => '[' :: (writeItems items ++ [']'])
  | .object members => '\x7b' :: (writeMembers members ++ ['\x7d'])

def writeItems : List Tree → List Char
  | [] => []
  | [t] => t.write
  | t :: rest => t.write ++ ',' :: writeItems rest

def writeMembers : List (String × Tree) → List Char
  | [] => []
  | [(k, t)] => writeText k ++ ':' :: t.write
  | (k, t) :: rest => writeText k ++ ':' :: (t.write ++ ',' :: writeMembers rest)

end

end Tree

namespace Document

def toText (d : Document) : String := String.ofList d.tree.write

def toPayload (d : Document) : ByteArray := d.toText.toUTF8

end Document

end DeviceLink
