import DeviceLink.Client.Call

/-!
# Calls as they change the session

A call goes through stages: its topic is built, the topic is checked, the value is
written, and the command is put into the queue.  Here every stage works on the
session itself, and what a stage has done to it stays done when a later one fails,
so a call that fails could leave anything behind.

`Call` lists the entry points of the clients; the clients of the two services call
them with their own exchanges and streams.  `play` goes through a sequence of calls
and steps, in which calls may fail.
-/

namespace DeviceLink.Client

open Session (State Submission Action)

structure Receipt where
  ack : Nat
  topic : String
deriving DecidableEq, Repr

/-- Something that may change a session and may fail; changes outlast a failure. -/
abbrev Attempt (α : Type) : Type := ExceptT ClientError (StateM State) α

namespace Attempt

def on {α : Type} (x : Attempt α) (s : State) : Except ClientError α × State := (x.run.run s).run

def check {α : Type} (result : Except ClientError α) : Attempt α := ExceptT.mk (pure result)

def enqueue (topic : String) (what : Submission) : Attempt Receipt := do
  let s ← get
  match s.submit? what with
  | some after =>
    set after
    return ⟨s.acks.length, topic⟩
  | none => throw .channelClosed

def subscribe (topic : String) (qos : QoS) : Attempt Receipt := do
  check (checkTopic topic)
  enqueue topic (.subscribe topic qos)

def unsubscribe (topic : String) : Attempt Receipt := enqueue topic (.unsubscribe topic)

def publish {α : Type} (format : Format α) (topic : String) (data : α) (qos : QoS) :
    Attempt Receipt := do
  check (checkTopic topic)
  let payload ← check ((format.write data).mapError .serialization)
  enqueue topic (.publish topic payload qos)

end Attempt

/-- An entry point of a client with everything the caller decides. -/
inductive Call : Type 1
  | subscribe (topic : String) (qos : QoS)
  | unsubscribe (topic : String)
  | publish {α : Type} (format : Format α) (topic : String) (data : α) (qos : QoS)
  | subscribeAnswer {Address Body Accepted Rejected : Type} [TopicBinding Address]
      (exchange : Exchange Address Body Accepted Rejected) (role : TopicRole) (address : Address)
      (qos : QoS)
  | subscribeEvents {Address Event : Type} [TopicBinding Address]
      (stream : EventStream Address Event) (address : Address) (qos : QoS)
  /-- A request in any format. -/
  | publishRequest {Address Body Accepted Rejected : Type} [TopicBinding Address]
      (exchange : Exchange Address Body Accepted Rejected) (format : Format (Request Address Body))
      (request : Request Address Body) (qos : QoS)

namespace Call

def attempt : Call → Attempt Receipt
  | subscribe topic qos => Attempt.subscribe topic qos
  | unsubscribe topic => Attempt.unsubscribe topic
  | publish format topic data qos => Attempt.publish format topic data qos
  | subscribeAnswer exchange role address qos => do
    let topic ← Attempt.check ((exchange.topic role address).mapError .topic)
    Attempt.subscribe topic qos
  | subscribeEvents stream address qos => do
    let topic ← Attempt.check ((stream.topic address).mapError .topic)
    Attempt.subscribe topic qos
  | publishRequest exchange format request qos => do
    let topic ← Attempt.check ((exchange.topic .request request.address).mapError .topic)
    Attempt.publish format topic request qos

def make (s : State) : Call → Except ClientError Issued
  | subscribe topic qos => Client.subscribe s topic qos
  | unsubscribe topic => Client.unsubscribe s topic
  | publish format topic data qos => Client.publish format s topic data qos
  | subscribeAnswer exchange role address qos => Client.subscribeAnswer exchange role s address qos
  | subscribeEvents stream address qos => Client.subscribeEvents stream s address qos
  | publishRequest exchange format request qos =>
    match exchange.topic .request request.address with
    | .error e => .error (.topic e)
    | .ok topic => Client.publish format s topic request qos

end Call

inductive Event
  | call (c : Call)
  | step (a : Action)

/-- What the calls among some events are answered, and the state after the events, if
every step can be taken. -/
def play (s : State) : List Event → Option (List (Except ClientError Receipt) × State)
  | [] => some ([], s)
  | .call c :: rest =>
    let (answer, after) := c.attempt.on s
    (play after rest).map fun (answers, last) => (answer :: answers, last)
  | .step a :: rest => (s.step? a).bind fun after => play after rest

end DeviceLink.Client
