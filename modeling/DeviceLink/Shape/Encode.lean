import DeviceLink.Shape.Basic

/-!
# Encoding

Every value of a shape has a document.  A record becomes an object with exactly
the members that are present; an explicit null of a free document is present.
-/

namespace DeviceLink

def Word.ofInt32 (n : Int32) : Word :=
  ⟨n.toInt, by have := n.le_toInt; omega, by have := n.toInt_lt; omega⟩

def Word.ofInt64 (n : Int64) : Word :=
  ⟨n.toInt, by have := n.le_toInt; omega, by have := n.toInt_lt; omega⟩

mutual

def Shape.encode : (shape : Shape) → shape.Val → Document
  | .text, s => .text s
  | .flag, b => .bool b
  | .int32, n => .word (Word.ofInt32 n)
  | .int64, n => .word (Word.ofInt64 n)
  | .time, t => .word (Word.ofInt64 t.seconds)
  | .status, s => .text s.name
  | .errorCode, c => .text c.name
  | .free, d => d
  | .record _ fields, v => .ofMembers (fields.encodeMembers v)
  | .list item, xs => .array (xs.map item.encode)
  | .dict value, xs => .object (xs.map value.encode)

def Fields.encodeMembers : (fields : Fields) → fields.Val → List (String × Document)
  | .nil, _ => []
  | .cons name shape rest, (v, others) =>
    match v with
    | none => rest.encodeMembers others
    | some v => (name, shape.encode v) :: rest.encodeMembers others

end

end DeviceLink
