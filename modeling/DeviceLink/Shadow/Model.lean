import DeviceLink.Jobs.Model

/-!
# Documents of the shadow service

A shadow keeps the state that a device should have and the state it last
reported.  Sections of the state are free documents in which a null removes what
the service keeps, so they keep an explicit null apart from an absent section.
-/

namespace DeviceLink

def shadowNameParam : String := "shadowName"

/-- One shadow of one thing: the classic one or, with a name, a named one. -/
structure ShadowAddress where
  thingName : Option String := none
  shadowName : Option String := none
deriving DecidableEq, Repr

/-- It names nothing. -/
instance : Inhabited ShadowAddress := ⟨{}⟩

instance : TopicBinding ShadowAddress where
  topicParams a :=
    (TopicParams.empty.bind thingNameParam a.thingName).bind shadowNameParam a.shadowName

namespace ShadowAddress

def classic (thingName : String) : ShadowAddress := ⟨thingName, none⟩

def named (thingName shadowName : String) : ShadowAddress := ⟨thingName, shadowName⟩

end ShadowAddress

structure ShadowState where
  desired : Option Document := none
  reported : Option Document := none

instance : Payload ShadowState where
  name := "ShadowState"
  fields := .ofList [("desired", .free), ("reported", .free)]
  ofVal := fun (a, b, ()) => ⟨a, b⟩
  toVal := fun x => (x.desired, x.reported, ())
  toVal_ofVal := fun _ => rfl
  ofVal_toVal := fun _ => rfl

namespace ShadowState

/-- Only the section of desired values. -/
def ofDesired (d : Document) : ShadowState := { desired := d }

def ofReported (d : Document) : ShadowState := { reported := d }

end ShadowState

/-- The state as the service answers it, with the difference it has computed. -/
structure ShadowStateWithDelta where
  desired : Option Document := none
  reported : Option Document := none
  delta : Option Document := none

instance : Payload ShadowStateWithDelta where
  name := "ShadowStateWithDelta"
  fields := .ofList [("desired", .free), ("reported", .free), ("delta", .free)]
  ofVal := fun (a, b, c, ()) => ⟨a, b, c⟩
  toVal := fun x => (x.desired, x.reported, x.delta, ())
  toVal_ofVal := fun _ => rfl
  ofVal_toVal := fun _ => rfl

/-- When each value of the state was last set. -/
structure ShadowMetadata where
  desired : Option Document := none
  reported : Option Document := none

instance : Payload ShadowMetadata where
  name := "ShadowMetadata"
  fields := .ofList [("desired", .free), ("reported", .free)]
  ofVal := fun (a, b, ()) => ⟨a, b⟩
  toVal := fun x => (x.desired, x.reported, ())
  toVal_ofVal := fun _ => rfl
  ofVal_toVal := fun _ => rfl

structure ErrorResponse where
  clientToken : Option String := none
  code : Option Int32 := none
  message : Option String := none
  timestamp : Option Timestamp := none

instance : Payload ErrorResponse where
  name := "ErrorResponse"
  fields := .ofList
    [("clientToken", .text), ("code", .int32), ("message", .text), ("timestamp", .time)]
  ofVal := fun (a, b, c, d, ()) => ⟨a, b, c, d⟩
  toVal := fun x => (x.clientToken, x.code, x.message, x.timestamp, ())
  toVal_ofVal := fun _ => rfl
  ofVal_toVal := fun _ => rfl

structure GetShadowRequest where
  clientToken : Option String := none

instance : Payload GetShadowRequest where
  name := "GetShadowRequest"
  fields := .ofList [("clientToken", .text)]
  ofVal := fun (a, ()) => ⟨a⟩
  toVal := fun x => (x.clientToken, ())
  toVal_ofVal := fun _ => rfl
  ofVal_toVal := fun _ => rfl

def GetShadowRequest.of (thingName : String) : Request ShadowAddress GetShadowRequest :=
  ⟨.classic thingName, {}⟩

structure GetShadowResponse where
  clientToken : Option String := none
  state : Option ShadowStateWithDelta := none
  metadata : Option ShadowMetadata := none
  version : Option Int64 := none
  timestamp : Option Timestamp := none

instance : Payload GetShadowResponse where
  name := "GetShadowResponse"
  fields := .ofList
    [("clientToken", .text), ("state", Payload.shape ShadowStateWithDelta),
      ("metadata", Payload.shape ShadowMetadata), ("version", .int64), ("timestamp", .time)]
  ofVal := fun (a, b, c, d, e, ()) => ⟨a, Payload.read b, Payload.read c, d, e⟩
  toVal := fun x =>
    (x.clientToken, Payload.write x.state, Payload.write x.metadata, x.version, x.timestamp, ())
  toVal_ofVal := by rintro ⟨a, b, c, d, e, ⟨⟩⟩; simp; rfl
  ofVal_toVal := by rintro ⟨⟩; simp

structure UpdateShadowRequest where
  clientToken : Option String := none
  state : Option ShadowState := none
  version : Option Int64 := none

instance : Payload UpdateShadowRequest where
  name := "UpdateShadowRequest"
  fields := .ofList
    [("clientToken", .text), ("state", Payload.shape ShadowState), ("version", .int64)]
  ofVal := fun (a, b, c, ()) => ⟨a, Payload.read b, c⟩
  toVal := fun x => (x.clientToken, Payload.write x.state, x.version, ())
  toVal_ofVal := by rintro ⟨a, b, c, ⟨⟩⟩; simp; rfl
  ofVal_toVal := by rintro ⟨⟩; simp

def UpdateShadowRequest.of (thingName : String) (state : ShadowState) :
    Request ShadowAddress UpdateShadowRequest :=
  ⟨.classic thingName, { state := state }⟩

structure UpdateShadowResponse where
  clientToken : Option String := none
  state : Option ShadowState := none
  metadata : Option ShadowMetadata := none
  version : Option Int64 := none
  timestamp : Option Timestamp := none

instance : Payload UpdateShadowResponse where
  name := "UpdateShadowResponse"
  fields := .ofList
    [("clientToken", .text), ("state", Payload.shape ShadowState),
      ("metadata", Payload.shape ShadowMetadata), ("version", .int64), ("timestamp", .time)]
  ofVal := fun (a, b, c, d, e, ()) => ⟨a, Payload.read b, Payload.read c, d, e⟩
  toVal := fun x =>
    (x.clientToken, Payload.write x.state, Payload.write x.metadata, x.version, x.timestamp, ())
  toVal_ofVal := by rintro ⟨a, b, c, d, e, ⟨⟩⟩; simp; rfl
  ofVal_toVal := by rintro ⟨⟩; simp

structure DeleteShadowRequest where
  clientToken : Option String := none
  version : Option Int64 := none

instance : Payload DeleteShadowRequest where
  name := "DeleteShadowRequest"
  fields := .ofList [("clientToken", .text), ("version", .int64)]
  ofVal := fun (a, b, ()) => ⟨a, b⟩
  toVal := fun x => (x.clientToken, x.version, ())
  toVal_ofVal := fun _ => rfl
  ofVal_toVal := fun _ => rfl

def DeleteShadowRequest.of (thingName : String) : Request ShadowAddress DeleteShadowRequest :=
  ⟨.classic thingName, {}⟩

structure DeleteShadowResponse where
  clientToken : Option String := none
  version : Option Int64 := none
  timestamp : Option Timestamp := none

instance : Payload DeleteShadowResponse where
  name := "DeleteShadowResponse"
  fields := .ofList [("clientToken", .text), ("version", .int64), ("timestamp", .time)]
  ofVal := fun (a, b, c, ()) => ⟨a, b, c⟩
  toVal := fun x => (x.clientToken, x.version, x.timestamp, ())
  toVal_ofVal := fun _ => rfl
  ofVal_toVal := fun _ => rfl

/-- Sent whenever desired and reported state differ. -/
structure ShadowDeltaUpdatedEvent where
  state : Option Document := none
  metadata : Option Document := none
  version : Option Int64 := none
  timestamp : Option Timestamp := none
  clientToken : Option String := none

instance : Payload ShadowDeltaUpdatedEvent where
  name := "ShadowDeltaUpdatedEvent"
  fields := .ofList
    [("state", .free), ("metadata", .free), ("version", .int64), ("timestamp", .time),
      ("clientToken", .text)]
  ofVal := fun (a, b, c, d, e, ()) => ⟨a, b, c, d, e⟩
  toVal := fun x => (x.state, x.metadata, x.version, x.timestamp, x.clientToken, ())
  toVal_ofVal := fun _ => rfl
  ofVal_toVal := fun _ => rfl

structure ShadowUpdatedSnapshot where
  state : Option ShadowState := none
  metadata : Option ShadowMetadata := none
  version : Option Int64 := none

instance : Payload ShadowUpdatedSnapshot where
  name := "ShadowUpdatedSnapshot"
  fields := .ofList
    [("state", Payload.shape ShadowState), ("metadata", Payload.shape ShadowMetadata),
      ("version", .int64)]
  ofVal := fun (a, b, c, ()) => ⟨Payload.read a, Payload.read b, c⟩
  toVal := fun x => (Payload.write x.state, Payload.write x.metadata, x.version, ())
  toVal_ofVal := by rintro ⟨a, b, c, ⟨⟩⟩; simp; rfl
  ofVal_toVal := by rintro ⟨⟩; simp

/-- Sent after every change, with the shadow before and after it. -/
structure ShadowUpdatedEvent where
  previous : Option ShadowUpdatedSnapshot := none
  current : Option ShadowUpdatedSnapshot := none
  timestamp : Option Timestamp := none
  clientToken : Option String := none

instance : Payload ShadowUpdatedEvent where
  name := "ShadowUpdatedEvent"
  fields := .ofList
    [("previous", Payload.shape ShadowUpdatedSnapshot),
      ("current", Payload.shape ShadowUpdatedSnapshot), ("timestamp", .time),
      ("clientToken", .text)]
  ofVal := fun (a, b, c, d, ()) => ⟨Payload.read a, Payload.read b, c, d⟩
  toVal := fun x =>
    (Payload.write x.previous, Payload.write x.current, x.timestamp, x.clientToken, ())
  toVal_ofVal := by rintro ⟨a, b, c, d, ⟨⟩⟩; simp; rfl
  ofVal_toVal := by rintro ⟨⟩; simp

end DeviceLink
