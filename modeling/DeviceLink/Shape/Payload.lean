import DeviceLink.Document.Printer
import DeviceLink.Document.Reader
import DeviceLink.Shape.Decode
import DeviceLink.Shape.Encode

/-!
# Payloads

A payload type is a structure with named members that has the same values as a
record shape.  The instance states the shape once; decoding, encoding and the
bytes on the wire follow from it.  At the outermost level only an object is a
payload, although a record inside another value may also be an array.
-/

namespace DeviceLink

inductive CodecError
  /-- The bytes are not the UTF-8 text of a document. -/
  | unreadable
  /-- The document is not an object. -/
  | notAnObject (found : Document)
  | shape (fault : Fault)
  /-- The value has no text in the format that was asked for. -/
  | unwritable (reason : String)

namespace CodecError

def kindName (d : Document) : String :=
  match d.view with
  | .null => "null"
  | .bool _ => "boolean"
  | .word _ => "number"
  | .double _ => "number"
  | .text _ => "string"
  | .array _ => "array"
  | .object _ => "object"

def message : CodecError → String
  | unreadable => "payload is not valid JSON"
  | notAnObject found => "expected a JSON object, found " ++ kindName found
  | shape fault => "document does not match the expected shape: " ++ fault.message
  | unwritable reason => "failed to encode document: " ++ reason

end CodecError

namespace Shape

/-- The value of a whole payload: an object that has the shape. -/
def ofDocument (shape : Shape) (d : Document) : Except CodecError shape.Val :=
  match d.view with
  | .object _ => (shape.decode d).mapError .shape
  | _ => .error (.notAnObject d)

def ofBytes (shape : Shape) (bytes : ByteArray) : Except CodecError shape.Val :=
  match Document.ofPayload? bytes with
  | some d => shape.ofDocument d
  | none => .error .unreadable

end Shape

class Payload (α : Type) where
  /-- The name of the type in messages. -/
  name : String
  fields : Fields
  ofVal : fields.Val → α
  toVal : α → fields.Val
  toVal_ofVal : ∀ v, toVal (ofVal v) = v
  ofVal_toVal : ∀ x, ofVal (toVal x) = x

namespace Payload

/-- The shape of the type where it stands inside another one. -/
def shape (α : Type) [Payload α] : Shape := .record (name α) (fields α)

variable {α : Type} [Payload α]

def read : Option (shape α).Val → Option α := Option.map ofVal

def write : Option α → Option (shape α).Val := Option.map toVal

def readList : Option (Shape.list (shape α)).Val → Option (List α) := Option.map (List.map ofVal)

def writeList : Option (List α) → Option (Shape.list (shape α)).Val := Option.map (List.map toVal)

/-- The values in a member that holds lists of records under arbitrary keys. -/
def readGroups : Option (Shape.dict (.list (shape α))).Val → Option (Dict (List α)) :=
  Option.map (Dict.map (List.map ofVal))

def writeGroups : Option (Dict (List α)) → Option (Shape.dict (.list (shape α))).Val :=
  Option.map (Dict.map (List.map toVal))

theorem map_inverse {β γ : Type} {f : β → γ} {g : γ → β} (h : ∀ b, g (f b) = b) (o : Option β) :
    Option.map g (Option.map f o) = o := by
  cases o <;> simp [h]

theorem list_map_inverse {β γ : Type} {f : β → γ} {g : γ → β} (h : ∀ b, g (f b) = b)
    (l : List β) : List.map g (List.map f l) = l := by
  simp [Function.comp_def, h]

theorem dict_map_inverse {β γ : Type} {f : β → γ} {g : γ → β} (h : ∀ b, g (f b) = b)
    (d : Dict β) : Dict.map g (Dict.map f d) = d := by
  apply Dict.ext
  simp [Dict.map, Function.comp_def, h]

@[simp] theorem write_read (v : Option (shape α).Val) : write (read v : Option α) = v :=
  map_inverse toVal_ofVal v

@[simp] theorem read_write (x : Option α) : read (write x) = x :=
  map_inverse ofVal_toVal x

@[simp] theorem writeList_readList (v : Option (Shape.list (shape α)).Val) :
    writeList (readList v : Option (List α)) = v :=
  map_inverse (list_map_inverse toVal_ofVal) v

@[simp] theorem readList_writeList (x : Option (List α)) : readList (writeList x) = x :=
  map_inverse (list_map_inverse ofVal_toVal) x

@[simp] theorem writeGroups_readGroups (v : Option (Shape.dict (.list (shape α))).Val) :
    writeGroups (readGroups v : Option (Dict (List α))) = v :=
  map_inverse (dict_map_inverse (list_map_inverse toVal_ofVal)) v

@[simp] theorem readGroups_writeGroups (x : Option (Dict (List α))) :
    readGroups (writeGroups x) = x :=
  map_inverse (dict_map_inverse (list_map_inverse ofVal_toVal)) x

def ofDocument (α : Type) [Payload α] (d : Document) : Except CodecError α :=
  ((shape α).ofDocument d).map ofVal

def toDocument (x : α) : Document := (shape α).encode (toVal x)

def ofBytes (α : Type) [Payload α] (bytes : ByteArray) : Except CodecError α :=
  ((shape α).ofBytes bytes).map ofVal

def toBytes (x : α) : ByteArray := (toDocument x).toPayload

end Payload

end DeviceLink
