import DeviceLink.Text.Graphic

/-!
# Quoted text in messages

A message that quotes a text found in a document puts it between double quotes
and makes every character visible: the quote, the backslash and the four
characters with a short name are written with a backslash, any other character
that is not graphic by its number.  A single quote needs no escape, because the
text stands between double ones.
-/

namespace DeviceLink.Text

/-- Lower-case hexadecimal digits without leading zeros. -/
def hexDigits (n : Nat) : String :=
  String.ofList (Nat.toDigits 16 n)

def quotedChar (c : Char) : String :=
  match c with
  | '\x00' => "\\0"
  | '\t' => "\\t"
  | '\r' => "\\r"
  | '\n' => "\\n"
  | '"' => "\\\""
  | '\\' => "\\\\"
  | c => if isGraphic c then c.toString else "\\u\x7b" ++ hexDigits c.toNat ++ "\x7d"

def quoted (s : String) : String :=
  "\"" ++ String.join (s.toList.map quotedChar) ++ "\""

end DeviceLink.Text
