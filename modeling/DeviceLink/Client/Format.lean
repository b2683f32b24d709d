import DeviceLink.Session.Basic
import DeviceLink.Topic.Exchange

/-!
# Payload formats

A format turns values into payloads and back, and each direction may fail.
Handlers are written for values; what they are called with is either a value or
the reason why there is none.
-/

namespace DeviceLink

structure Format (α : Type) where
  write : α → Except String ByteArray
  read : ByteArray → Except String α

namespace Format

def payload (α : Type) [Payload α] : Format α where
  write x := .ok (Payload.toBytes x)
  read bytes := (Payload.ofBytes α bytes).mapError CodecError.message

/-- The JSON format of requests: the payload is that of the body, and a request
that is read has an address that names nothing. -/
def request (Address Body : Type) [Inhabited Address] [Payload Body] :
    Format (Request Address Body) where
  write x := (payload Body).write x.body
  read bytes := ((payload Body).read bytes).map fun body => ⟨default, body⟩

/-- A document as it is.  Only objects are read; anything may be written. -/
def document : Format Document where
  write d := .ok d.toPayload
  read bytes :=
    match Document.ofPayload? bytes with
    | some d =>
      match d.view with
      | .object _ => .ok d
      | _ => .error (CodecError.notAnObject d).message
    | none => .error CodecError.unreadable.message

/-- A text that is not empty, written as a document and read as plain UTF-8. -/
def text : Format String where
  write s := if s = "" then .error "empty text" else .ok (Document.text s).toPayload
  read bytes :=
    match String.fromUTF8? bytes with
    | some s => .ok s
    | none => .error "not text"

end Format

/-- Why a handler is called without a value. -/
inductive MessageError
  /-- A message has come but is not in the format. -/
  | decode (topic : String) (payloadSize : Nat) (reason : String)
  /-- The transport could not subscribe the topic again. -/
  | transport (topic : String) (source : TransportError)
deriving DecidableEq, Repr

namespace MessageError

def topic : MessageError → String
  | decode topic _ _ => topic
  | transport topic _ => topic

def isDecode : MessageError → Bool
  | decode .. => true
  | transport .. => false

def message : MessageError → String
  | decode topic _ reason => "payload on '" ++ topic ++ "' failed to decode: " ++ reason
  | transport topic source => "subscription to '" ++ topic ++ "' failed: " ++ source.message

end MessageError

def Format.receive {α : Type} (format : Format α) (topic : String) :
    Session.Item → Except MessageError α
  | .message payload =>
    match format.read payload with
    | .ok value => .ok value
    | .error reason => .error (.decode topic payload.size reason)
  | .failure error => .error (.transport topic error)

end DeviceLink
