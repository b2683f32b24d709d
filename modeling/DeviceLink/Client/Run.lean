import DeviceLink.Client.Call

/-!
# Sessions that are used through the client

Only the calls of a client and of its dispatcher reach the queue of a session.
A run of the client is a run of its session in which every submission comes from
one of these calls.  They may be made at any time and by anyone, by handlers too.
A call that fails, and a connection that comes back with its session, change
nothing and are no step of a run.
-/

namespace DeviceLink.Client

open Session (State Submission Action)

/-- A call that succeeds in a state, what it submits, and the state after it. -/
inductive Submits (s : State) : Submission → State → Prop
  | subscribe {topic : String} {qos : QoS} {issued : Issued}
      (call : subscribe s topic qos = .ok issued) :
      Submits s (.subscribe topic qos) issued.session
  | unsubscribe {topic : String} {issued : Issued} (call : unsubscribe s topic = .ok issued) :
      Submits s (.unsubscribe topic) issued.session
  /-- A value in any format, on a topic that the caller has in whatever way. -/
  | publish {α : Type} {format : Format α} {topic : String} {data : α} {payload : ByteArray}
      {qos : QoS} {issued : Issued} (written : format.write data = .ok payload)
      (call : publish format s topic data qos = .ok issued) :
      Submits s (.publish topic payload qos) issued.session
  | subscribeAnswer {Address Body Accepted Rejected : Type} [TopicBinding Address]
      {exchange : Exchange Address Body Accepted Rejected} {role : TopicRole} {address : Address}
      {qos : QoS} {issued : Issued}
      (call : subscribeAnswer exchange role s address qos = .ok issued) :
      Submits s (.subscribe issued.topic qos) issued.session
  | subscribeEvents {Address Event : Type} [TopicBinding Address]
      {stream : EventStream Address Event} {address : Address} {qos : QoS} {issued : Issued}
      (call : subscribeEvents stream s address qos = .ok issued) :
      Submits s (.subscribe issued.topic qos) issued.session
  | publishRequest {Address Body Accepted Rejected : Type} [TopicBinding Address] [Payload Body]
      {exchange : Exchange Address Body Accepted Rejected} {request : Request Address Body}
      {qos : QoS} {issued : Issued} (call : publishRequest exchange s request qos = .ok issued) :
      Submits s (.publish issued.topic (Payload.toBytes request.body) qos) issued.session
  | dispatch {topic : String} {payload : ByteArray} {after : State}
      (call : dispatch s topic payload = .ok after) : Submits s (.dispatch topic payload) after
  | sessionRestored {after : State} (call : sessionRestored s false = .ok after) :
      Submits s .resubscribe after

/-- A run of a fresh session that is used through the client. -/
inductive Run : List Action → State → Prop
  | start : Run [] .initial
  | call {actions : List Action} {s t : State} {what : Submission} (run : Run actions s)
      (submits : Submits s what t) : Run (actions ++ [.submit what]) t
  /-- The session goes on by itself, or is told to stop. -/
  | step {actions : List Action} {s t : State} {a : Action} (run : Run actions s)
      (own : ∀ what, a ≠ .submit what) (step : s.step? a = some t) : Run (actions ++ [a]) t

end DeviceLink.Client
