import DeviceLink.Client.Error
import DeviceLink.Client.Format
import DeviceLink.Session.Step
import DeviceLink.Topic.Exchange

/-!
# Calls of the client

A call either fails at once and leaves the session as it was, or puts one
command into the queue and hands out an acknowledgement.  Topics are checked
first, then the payload is written, and only then the session is asked.
-/

namespace DeviceLink.Client

open Session (State Submission)

structure Issued where
  session : State
  ack : Nat
  topic : String

def submit (s : State) (what : Submission) : Except ClientError State :=
  match s.submit? what with
  | some s => .ok s
  | none => .error .channelClosed

/-- Hands a request to the session; its acknowledgement is the next one. -/
def issue (s : State) (topic : String) (what : Submission) : Except ClientError Issued :=
  match submit s what with
  | .ok after => .ok ⟨after, s.acks.length, topic⟩
  | .error e => .error e

/-- Accepts the topics that are routed by their exact text. -/
def checkTopic (topic : String) : Except ClientError Unit :=
  (validateTopic topic).mapError .topic

/-- Registers a handler for a topic, in the place of any other. -/
def subscribe (s : State) (topic : String) (qos : QoS) : Except ClientError Issued :=
  match checkTopic topic with
  | .error e => .error e
  | .ok () => issue s topic (.subscribe topic qos)

/-- Removes the handler of a topic.  The topic is not checked: one that was never
subscribed does no harm. -/
def unsubscribe (s : State) (topic : String) : Except ClientError Issued :=
  issue s topic (.unsubscribe topic)

def publish {α : Type} (format : Format α) (s : State) (topic : String) (data : α) (qos : QoS) :
    Except ClientError Issued :=
  match checkTopic topic with
  | .error e => .error e
  | .ok () =>
    match format.write data with
    | .error reason => .error (.serialization reason)
    | .ok payload => issue s topic (.publish topic payload qos)

variable {Address Body Accepted Rejected Event : Type} [TopicBinding Address]

def subscribeAnswer (exchange : Exchange Address Body Accepted Rejected) (role : TopicRole)
    (s : State) (address : Address) (qos : QoS) : Except ClientError Issued :=
  match exchange.topic role address with
  | .error e => .error (.topic e)
  | .ok topic => subscribe s topic qos

def subscribeEvents (stream : EventStream Address Event) (s : State) (address : Address)
    (qos : QoS) : Except ClientError Issued :=
  match stream.topic address with
  | .error e => .error (.topic e)
  | .ok topic => subscribe s topic qos

/-- Publishes a request; its address makes the topic, its body the payload. -/
def publishRequest [Payload Body] (exchange : Exchange Address Body Accepted Rejected) (s : State)
    (request : Request Address Body) (qos : QoS) : Except ClientError Issued :=
  match exchange.topic .request request.address with
  | .error e => .error (.topic e)
  | .ok topic => publish (Format.payload Body) s topic request.body qos

def dispatch (s : State) (topic : String) (payload : ByteArray) : Except ClientError State :=
  submit s (.dispatch topic payload)

/-- Tells the session that the connection is back.  If the broker has kept the
session there is nothing to do. -/
def sessionRestored (s : State) (sessionPresent : Bool) : Except ClientError State :=
  if sessionPresent then .ok s else submit s .resubscribe

def tell (s : State) : Signal → Except ClientError State
  | .dispatch topic payload => dispatch s topic payload
  | .restored sessionPresent => sessionRestored s sessionPresent

end DeviceLink.Client
