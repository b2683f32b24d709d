import DeviceLink.Document.Basic
import DeviceLink.Jobs.Status
import DeviceLink.Timestamp

/-!
# Shapes of documents

The services agree on the shape of every document they exchange: which members
an object has and what kind of value each of them holds.  `Shape` is the
language in which the models state that agreement, and `Shape.Val` the type of
the values that a shape describes.  Decoding, encoding and the laws between them
are then recursions on the shape and hold for every model at once.

Every member of a record is optional.  A member that holds a free document keeps
an explicit null, which asks the service to clear something; in every other
member a null means the same as leaving the member out.
-/

namespace DeviceLink

mutual

inductive Shape
  | text
  | flag
  | int32
  | int64
  | time
  | status
  | errorCode
  /-- Any document at all. -/
  | free
  /-- An object with known members; the name is for messages. -/
  | record (name : String) (fields : Fields)
  | list (item : Shape)
  /-- An object with arbitrary keys. -/
  | dict (value : Shape)

/-- The known members of a record, in the order they are declared. -/
inductive Fields
  | nil
  | cons (name : String) (shape : Shape) (rest : Fields)

end

mutual

def Shape.Val : Shape → Type
  | .text => String
  | .flag => Bool
  | .int32 => Int32
  | .int64 => Int64
  | .time => Timestamp
  | .status => JobStatus
  | .errorCode => RejectedErrorCode
  | .free => Document
  | .record _ fields => fields.Val
  | .list item => List item.Val
  | .dict value => Dict value.Val

/-- A value or nothing for each member. -/
def Fields.Val : Fields → Type
  | .nil => Unit
  | .cons _ shape rest => Option shape.Val × rest.Val

end

/-- Whether a null in a member of this shape is a value of its own. -/
def Shape.keepsNull : Shape → Bool
  | .free => true
  | _ => false

namespace Fields

def names : Fields → List String
  | .nil => []
  | .cons name _ rest => name :: rest.names

def absent : (fields : Fields) → fields.Val
  | .nil => ()
  | .cons _ _ rest => (none, rest.absent)

def ofList : List (String × Shape) → Fields
  | [] => .nil
  | (name, shape) :: rest => .cons name shape (ofList rest)

end Fields

end DeviceLink
