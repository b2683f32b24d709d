import DeviceLink.Shape.Basic
import DeviceLink.Shape.Fault

/-!
# Decoding

A record is read from an object by walking over its members in key order: a
known member is decoded into its place, an unknown one is passed over.  Inside
another value a record may also be written as an array of its members in the
order they are declared, the last ones left out.  The first value that does not
fit decides the fault.
-/

namespace DeviceLink

def decodeInteger (expected : Expectation) (low high : Int) (d : Document) : Except Fault Int :=
  match d.view with
  | .word n =>
    if low ≤ n.val ∧ n.val ≤ high then .ok n.val
    else .error (.wrongValue (.integer n.val) expected)
  | _ => .error (.wrongKind (Found.ofDocument d) expected)

def decodeText (d : Document) : Except Fault String :=
  match d.view with
  | .text s => .ok s
  | _ => .error (.wrongKind (Found.ofDocument d) .text)

def decodeFlag (d : Document) : Except Fault Bool :=
  match d.view with
  | .bool b => .ok b
  | _ => .error (.wrongKind (Found.ofDocument d) .flag)

/-- A number of seconds; a fraction is dropped. -/
def decodeTime (d : Document) : Except Fault Timestamp :=
  let ofNumber (n : Number) : Except Fault Timestamp :=
    match Timestamp.ofNumber? n with
    | some t => .ok t
    | none => .error (.wrongValue (Found.ofDocument d) .epochSeconds)
  match d.view with
  | .word n => ofNumber (.word n)
  | .double x => ofNumber (.double x)
  | _ => .error (.wrongKind (Found.ofDocument d) .epochSeconds)

/-- A name, given as a text or as the one key of an object that binds it to
null. -/
def decodeName (d : Document) : Except Fault String :=
  match d.view with
  | .text s => .ok s
  | .object members =>
    match members.entries with
    | [(key, value)] =>
      match value.view with
      | .null => .ok key
      | _ => .error (.wrongKind (Found.ofDocument value) .unit)
    | _ => .error (.wrongValue .map .singleKeyMap)
  | _ => .error (.wrongKind (Found.ofDocument d) .nameOrMap)

/-- Whether a member is left out: it holds a null that is no value. -/
def Shape.isOmission (shape : Shape) (d : Document) : Bool :=
  match d.view with
  | .null => !shape.keepsNull
  | _ => false

def decodeEach {α : Type} (f : Document → Except Fault α) : List Document → Except Fault (List α)
  | [] => .ok []
  | d :: rest =>
    match f d with
    | .error e => .error e
    | .ok a =>
      match decodeEach f rest with
      | .error e => .error e
      | .ok as => .ok (a :: as)

/-- Passes a value through one step for each member; the first failure is the
failure of the whole. -/
def foldMembers {α : Type} (f : α → String → Document → Except Fault α) (a : α) :
    List (String × Document) → Except Fault α
  | [] => .ok a
  | (key, d) :: rest =>
    match f a key d with
    | .error e => .error e
    | .ok b => foldMembers f b rest

mutual

def Shape.decode : (shape : Shape) → Document → Except Fault shape.Val
  | .text, d => decodeText d
  | .flag, d => decodeFlag d
  | .int32, d => (decodeInteger .int32 Int32.minValue.toInt Int32.maxValue.toInt d).map Int32.ofInt
  | .int64, d => (decodeInteger .int64 Int64.minValue.toInt Int64.maxValue.toInt d).map Int64.ofInt
  | .time, d => decodeTime d
  | .status, d => (decodeName d).map JobStatus.ofName
  | .errorCode, d => (decodeName d).map RejectedErrorCode.ofName
  | .free, d => .ok d
  | .record name fields, d =>
    match d.view with
    | .object members =>
      foldMembers (fun v key value => fields.assign key value v) fields.absent members.entries
    | .array items =>
      match fields.decodeItems items with
      | .error e => .error e
      | .ok v =>
        if items.length ≤ fields.names.length then .ok v
        else .error (.surplusElements items.length)
    | _ => .error (.wrongKind (Found.ofDocument d) (.record name))
  | .list item, d =>
    match d.view with
    | .array items => decodeEach item.decode items
    | _ => .error (.wrongKind (Found.ofDocument d) .sequence)
  | .dict value, d =>
    match d.view with
    | .object members => members.tryMap value.decode
    | _ => .error (.wrongKind (Found.ofDocument d) .map)

/-- Puts the value of one member into its place; an unknown member changes
nothing. -/
def Fields.assign : (fields : Fields) → String → Document → fields.Val → Except Fault fields.Val
  | .nil, _, _, v => .ok v
  | .cons name shape rest, key, d, (current, others) =>
    if key = name then
      if shape.isOmission d then .ok (none, others)
      else (shape.decode d).map fun v => (some v, others)
    else (rest.assign key d others).map fun others => (current, others)

def Fields.decodeItems : (fields : Fields) → List Document → Except Fault fields.Val
  | .nil, _ => .ok ()
  | fields, [] => .ok fields.absent
  | .cons _ shape rest, d :: items =>
    match (if shape.isOmission d then .ok none else (shape.decode d).map some) with
    | .error e => .error e
    | .ok v => (rest.decodeItems items).map fun others => (v, others)

end

end DeviceLink
