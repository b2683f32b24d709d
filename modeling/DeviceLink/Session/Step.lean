import DeviceLink.Session.Basic

/-!
# The steps of a session

`State.step?` says what one step of one of the participants does, and gives
`none` where that participant cannot take it.  A run is any sequence of steps,
so all interleavings of callers, manager, worker and delivery tasks are runs,
with any outcome of any call.

* A caller's request is taken while the queue is open and gets the next
  acknowledgement.
* The manager handles the command at the front.  Told to stop, or left without
  callers and commands, it closes the queue, handles what is left, unsubscribes
  every route and ends.
* The worker starts the call at the front, learns its outcome, and reports it.
  If the first subscribe call of a subscription is refused, the manager is told
  before the caller is.
* Once the manager has ended, the worker ends when it has nothing left to do, or
  is cut off; what it has not finished counts as closed then, in order.
* A delivery task calls its handler with the item at the front.  A handler that
  fails ends the task and loses the rest of the inbox.
-/

namespace DeviceLink.Session

inductive Submission
  | subscribe (topic : String) (qos : QoS)
  | unsubscribe (topic : String)
  | publish (topic : String) (payload : ByteArray) (qos : QoS)
  | dispatch (topic : String) (payload : ByteArray)
  | resubscribe
deriving DecidableEq

namespace Submission

def command (ack : Nat) : Submission → Command
  | subscribe topic qos => .subscribe topic qos ack
  | unsubscribe topic => .unsubscribe topic ack
  | publish topic payload qos => .publish topic payload qos ack
  | dispatch topic payload => .dispatch topic payload
  | resubscribe => .resubscribe

def isRequest : Submission → Bool
  | subscribe .. | unsubscribe .. | publish .. => true
  | dispatch .. | resubscribe => false

end Submission

inductive Action
  | submit (what : Submission)
  | requestStop
  /-- The last caller goes away. -/
  | dropCallers
  /-- The manager handles the command at the front. -/
  | handle
  /-- The manager closes the queue. -/
  | close
  /-- The manager unsubscribes every route and ends. -/
  | finish
  /-- The table lists its routes in another order. -/
  | reorder (routes : Routes)
  /-- The worker makes the call at the front. -/
  | start
  /-- The call returns. -/
  | answer (outcome : Outcome)
  /-- The worker reports the outcome. -/
  | settle
  | endWorker
  | abortWorker
  /-- A handler is called; `fails` says that it does not return. -/
  | deliver (inbox : Nat) (fails : Bool)
deriving DecidableEq

namespace State

def submit? (s : State) (what : Submission) : Option State :=
  if s.isOpen then
    some { s with
      commands := s.commands ++ [what.command s.acks.length]
      acks := if what.isRequest then s.acks ++ [none] else s.acks }
  else none

/-- Makes a subscription: a fresh id and inbox, and a route in the place of any
other for the topic. -/
def subscribe (s : State) (topic : String) (qos : QoS) (ack : Nat) : State :=
  let id := s.nextId
  let route : Route := ⟨id, qos, s.inboxes.length⟩
  { s with
    nextId := id + 1
    inboxes := s.inboxes ++ [{ topic }]
    routes := s.routes.insert topic route
    orders := s.orders ++ [⟨.subscribe topic qos, .caller ack, some id⟩] }

/-- Routes a message to the handler of its topic.  If the handler's task is gone
the message is lost and the topic is unsubscribed. -/
def dispatch (s : State) (topic : String) (payload : ByteArray) : State :=
  match s.routes.get? topic with
  | none => s
  | some route =>
    if s.isInboxOpen route.inbox then s.putItem route.inbox (.message payload)
    else
      { s with
        routes := s.routes.erase topic
        orders := s.orders ++ [⟨.unsubscribe topic, .nobody, none⟩] }

def resubscribeOrders (routes : Routes) : List Order :=
  routes.map fun (topic, route) =>
    ⟨.subscribe topic route.qos, .subscription route.inbox, none⟩

def releaseOrders (routes : Routes) : List Order :=
  routes.map fun (topic, _) => ⟨.unsubscribe topic, .nobody, none⟩

/-- Removes the route of a topic if it still is the given subscription's. -/
def dropRoute (s : State) (topic : String) (id : UInt64) : State :=
  match s.routes.get? topic with
  | some route => if route.id = id then { s with routes := s.routes.erase topic } else s
  | none => s

def perform (s : State) : Command → State
  | .subscribe topic qos ack => s.subscribe topic qos ack
  | .unsubscribe topic ack =>
    { s with
      routes := s.routes.erase topic
      orders := s.orders ++ [⟨.unsubscribe topic, .caller ack, none⟩] }
  | .publish topic payload qos ack =>
    s.putOrder ⟨.publish topic payload qos, .caller ack, none⟩
  | .dispatch topic payload => s.dispatch topic payload
  | .resubscribe => { s with orders := s.orders ++ resubscribeOrders s.routes }
  | .subscribeFailed topic id => s.dropRoute topic id

def handle? (s : State) : Option State :=
  match s.phase, s.commands with
  | .ended, _ => none
  | _, [] => none
  | _, c :: rest => some ({ s with commands := rest }.perform c)

def close? (s : State) : Option State :=
  if s.phase = .running ∧ (s.stopRequested ∨ (¬ s.hasCallers ∧ s.commands = [])) then
    some { s with phase := .draining }
  else none

def finish? (s : State) : Option State :=
  if s.phase = .draining ∧ s.commands = [] then
    some { s with
      phase := .ended
      routes := []
      orders := s.orders ++ releaseOrders s.routes }
  else none

def start? (s : State) : Option State :=
  match s.worker, s.orders with
  | .idle, order :: rest =>
    some { s with worker := .calling order, orders := rest, calls := s.calls ++ [order.call] }
  | _, _ => none

/-- What the manager is told when a call is refused. -/
def refusal? (order : Order) (outcome : Outcome) : Option Command :=
  match order.route, outcome with
  | some id, .error _ => some (.subscribeFailed order.call.topic id)
  | _, _ => none

def answer? (s : State) (outcome : Outcome) : Option State :=
  match s.worker with
  | .calling order =>
    some { s with
      worker := .reporting order outcome
      commands :=
        if s.isOpen then s.commands ++ (refusal? order outcome).toList else s.commands }
  | _ => none

def settle? (s : State) : Option State :=
  match s.worker with
  | .reporting order outcome => some ({ s with worker := .idle }.report order.observer outcome)
  | _ => none

/-- The worker ends when there is nothing left to do and nobody to ask for more. -/
def endWorker? (s : State) : Option State :=
  if s.phase = .ended ∧ s.worker = .idle ∧ s.orders = [] then some { s with worker := .ended }
  else none

/-- Reports to each observer that its request never reached the transport. -/
def closeOrders (s : State) : List Order → State
  | [] => s
  | order :: rest => (s.report order.observer (.error .connectionClosed)).closeOrders rest

/-- The worker is cut off while it waits for a call to return or for an order. -/
def abortWorker? (s : State) : Option State :=
  if s.phase = .ended then
    match s.worker with
    | .idle => some ({ s with worker := .ended, orders := [] }.closeOrders s.orders)
    | .calling order =>
      some ({ s with worker := .ended, orders := [] }.closeOrders (order :: s.orders))
    | _ => none
  else none

def deliver? (s : State) (inbox : Nat) (fails : Bool) : Option State :=
  match s.inboxes[inbox]? with
  | some b =>
    match b.queue with
    | item :: rest =>
      if b.live then
        let after : Inbox := {
          b with
          delivered := b.delivered ++ [item]
          queue := if fails then [] else rest
          live := !fails }
        some { s with inboxes := s.inboxes.set inbox after }
      else none
    | [] => none
  | none => none

def step? (s : State) : Action → Option State
  | .submit what => s.submit? what
  | .requestStop => some { s with stopRequested := true }
  | .dropCallers => some { s with hasCallers := false }
  | .handle => s.handle?
  | .close => s.close?
  | .finish => s.finish?
  | .reorder routes => if routes.isPerm s.routes then some { s with routes } else none
  | .start => s.start?
  | .answer outcome => s.answer? outcome
  | .settle => s.settle?
  | .endWorker => s.endWorker?
  | .abortWorker => s.abortWorker?
  | .deliver inbox fails => s.deliver? inbox fails

def run? (s : State) : List Action → Option State
  | [] => some s
  | a :: rest => (s.step? a).bind fun s => s.run? rest

end State

end DeviceLink.Session
