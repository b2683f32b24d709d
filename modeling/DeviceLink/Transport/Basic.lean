/-!
# The transport

Below the session stands a transport that hands requests to the wire, one at a
time.  An outcome only says whether the request has left this device; what the
broker or a service makes of it arrives later as a message.
-/

namespace DeviceLink

/-- Payloads are equal when they have the same bytes. -/
instance decidableEqPayload : DecidableEq ByteArray := ByteArray.instDecidableEq

/-- Delivery guarantees of MQTT. -/
inductive QoS
  | atMostOnce
  | atLeastOnce
  | exactlyOnce
deriving DecidableEq, Repr, Inhabited

def QoS.level : QoS → Nat
  | atMostOnce => 0
  | atLeastOnce => 1
  | exactlyOnce => 2

inductive TransportCall
  | subscribe (topic : String) (qos : QoS)
  | unsubscribe (topic : String)
  | publish (topic : String) (payload : ByteArray) (qos : QoS)
deriving DecidableEq

def TransportCall.topic : TransportCall → String
  | subscribe topic _ => topic
  | unsubscribe topic => topic
  | publish topic _ _ => topic

/-- Why a request has not left this device. -/
inductive TransportError
  /-- The queue of the MQTT client has no reader any more. -/
  | queueClosed
  | connectionClosed
  | rejected (reason : String)
deriving DecidableEq, Repr

def TransportError.message : TransportError → String
  | queueClosed => "client operation failed: Failed to send mqtt requests to eventloop"
  | connectionClosed => "connection closed before the request reached the transport"
  | rejected reason => "transport rejected the request: " ++ reason

abbrev Outcome := Except TransportError Unit

instance : DecidableEq Outcome
  | .ok (), .ok () => isTrue rfl
  | .ok (), .error _ => isFalse nofun
  | .error _, .ok () => isFalse nofun
  | .error a, .error b =>
    if h : a = b then isTrue (h ▸ rfl) else isFalse fun e => h (Except.error.inj e)

end DeviceLink
