import DeviceLink.Transport.Basic

/-!
# The state of a session

A session connects any number of callers with one transport.  Callers put
commands into one queue.  The *manager* takes them out one at a time, keeps the
table of routes, and passes requests on to a second queue.  The *worker* takes
requests out of that queue and calls the transport, one call at a time.  Every
subscription has an *inbox*, which its delivery task empties into the handler.

The state holds these queues, the table, how far the manager and the worker have
come, and three records of what the outside has seen: the calls made on the
transport, the items each handler was called with, and the outcomes of the
acknowledgements.  Acknowledgements are numbered in the order in which their
requests were accepted, inboxes in the order in which their subscriptions were
made.
-/

namespace DeviceLink.Session

/-- What a handler is called with. -/
inductive Item
  | message (payload : ByteArray)
  /-- The transport could not subscribe the topic again. -/
  | failure (error : TransportError)
deriving DecidableEq

/-- One subscription's queue, and what its handler has been called with. -/
structure Inbox where
  topic : String
  queue : List Item := []
  /-- Whether the delivery task can still take items. -/
  live : Bool := true
  delivered : List Item := []
deriving DecidableEq

/-- Where messages on a topic go.  The id tells successive subscriptions of the
topic apart. -/
structure Route where
  id : UInt64
  qos : QoS
  inbox : Nat
deriving DecidableEq, Repr

/-- What callers, dispatchers and the worker ask the manager for. -/
inductive Command
  | subscribe (topic : String) (qos : QoS) (ack : Nat)
  | unsubscribe (topic : String) (ack : Nat)
  | publish (topic : String) (payload : ByteArray) (qos : QoS) (ack : Nat)
  | dispatch (topic : String) (payload : ByteArray)
  /-- The connection is back without its session. -/
  | resubscribe
  /-- The transport refused the first subscribe call of a subscription. -/
  | subscribeFailed (topic : String) (id : UInt64)
deriving DecidableEq

/-- Who learns the outcome of a request. -/
inductive Observer
  /-- The caller who made it, through an acknowledgement. -/
  | caller (ack : Nat)
  /-- The subscription it was made for; it only learns of failures. -/
  | subscription (inbox : Nat)
  | nobody
deriving DecidableEq, Repr

/-- A request to the transport.  `route` is set for the first subscribe call of
a subscription, whose refusal ends that subscription. -/
structure Order where
  call : TransportCall
  observer : Observer
  route : Option UInt64 := none
deriving DecidableEq

inductive Phase
  | running
  /-- The queue takes no more commands; those in it are still handled. -/
  | draining
  | ended
deriving DecidableEq, Repr

inductive Worker
  | idle
  | calling (order : Order)
  /-- The call has returned and its outcome is about to be reported. -/
  | reporting (order : Order) (outcome : Outcome)
  | ended
deriving DecidableEq

/-- The table of routes; at most one for each topic.  The order in which it
lists them has no meaning. -/
abbrev Routes := List (String × Route)

structure State where
  phase : Phase := .running
  /-- Whether the manager has been told to stop. -/
  stopRequested : Bool := false
  /-- Whether anyone is left who can put commands into the queue. -/
  hasCallers : Bool := true
  commands : List Command := []
  routes : Routes := []
  nextId : UInt64 := 0
  orders : List Order := []
  worker : Worker := .idle
  inboxes : List Inbox := []
  acks : List (Option Outcome) := []
  calls : List TransportCall := []
deriving DecidableEq

namespace Routes

/-- Puts a route in the place of any other for its topic. -/
def insert (routes : Routes) (topic : String) (route : Route) : Routes :=
  match routes with
  | [] => [(topic, route)]
  | (t, r) :: rest =>
    if t = topic then (topic, route) :: rest else (t, r) :: insert rest topic route

def get? (routes : Routes) (topic : String) : Option Route := routes.lookup topic

def erase (routes : Routes) (topic : String) : Routes := routes.filter fun e => e.1 ≠ topic

end Routes

namespace State

def initial : State := {}

/-- Whether a caller's command would be taken. -/
def isOpen (s : State) : Bool := s.phase = .running && s.hasCallers

/-- Puts an item into an inbox; an inbox that is not open loses it. -/
def putItem (s : State) (inbox : Nat) (item : Item) : State :=
  { s with inboxes := s.inboxes.modify inbox fun b =>
      if b.live then { b with queue := b.queue ++ [item] } else b }

def isInboxOpen (s : State) (inbox : Nat) : Bool := (s.inboxes[inbox]?.map (·.live)).getD false

def putOrder (s : State) (order : Order) : State := { s with orders := s.orders ++ [order] }

/-- Resolves an acknowledgement; one that is already resolved stays as it is. -/
def resolve (s : State) (ack : Nat) (outcome : Outcome) : State :=
  { s with acks := s.acks.modify ack fun a => a.or (some outcome) }

def report (s : State) (observer : Observer) (outcome : Outcome) : State :=
  match observer, outcome with
  | .caller ack, outcome => s.resolve ack outcome
  | .subscription inbox, .error e => s.putItem inbox (.failure e)
  | .subscription _, .ok () => s
  | .nobody, _ => s

end State

end DeviceLink.Session
