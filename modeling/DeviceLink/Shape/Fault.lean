import DeviceLink.Decimal.Layout
import DeviceLink.Document.Basic
import DeviceLink.Text.Quoted

/-!
# What can be wrong with a document

A document fails to have a shape in three ways: a value is of the wrong kind, a
value of the right kind is out of range, or a record written as an array has too
many elements.  The fault names what was found and what was expected.
-/

namespace DeviceLink

/-- What stands in the document, as far as a message shows it. -/
inductive Found
  | null
  | flag (b : Bool)
  | integer (n : Int)
  | double (x : Double)
  | text (s : String)
  | sequence
  | map
deriving DecidableEq, Repr

inductive Expectation
  | text
  | flag
  | int32
  | int64
  | epochSeconds
  | nameOrMap
  | singleKeyMap
  | unit
  | map
  | sequence
  | record (name : String)
deriving DecidableEq, Repr

inductive Fault
  | wrongKind (found : Found) (expected : Expectation)
  | wrongValue (found : Found) (expected : Expectation)
  | surplusElements (length : Nat)
deriving DecidableEq, Repr

namespace Found

/-- What a document counts as in a message. -/
def ofDocument (d : Document) : Found :=
  match d.view with
  | .null => .null
  | .bool b => .flag b
  | .word n => .integer n.val
  | .double x => .double x
  | .text s => .text s
  | .array _ => .sequence
  | .object _ => .map

/-- A value as it is shown in a message, numbers and truth values in grave
accents. -/
def phrase : Found → String
  | null => "null"
  | flag b => "boolean \x60" ++ (if b then "true" else "false") ++ "\x60"
  | integer n => "integer \x60" ++ toString n ++ "\x60"
  | double x => "floating point \x60" ++ x.toText ++ "\x60"
  | text s => "string " ++ Text.quoted s
  | sequence => "sequence"
  | map => "map"

end Found

def Expectation.phrase : Expectation → String
  | text => "a string"
  | flag => "a boolean"
  | int32 => "i32"
  | int64 => "i64"
  | epochSeconds => "seconds since the Unix epoch as a number"
  | nameOrMap => "string or map"
  | singleKeyMap => "map with a single key"
  | unit => "unit"
  | map => "a map"
  | sequence => "a sequence"
  | record name => "struct " ++ name

def Fault.message : Fault → String
  | wrongKind found expected => "invalid type: " ++ found.phrase ++ ", expected " ++ expected.phrase
  | wrongValue found expected => "invalid value: " ++ found.phrase ++ ", expected " ++ expected.phrase
  | surplusElements length =>
    "invalid length " ++ toString length ++ ", expected fewer elements in array"

end DeviceLink
