import DeviceLink.Client.Call

/-!
# Rehearsals

A rehearsal is one run of a session over a transport that only keeps a record.
It follows a script of steps and, between two of them, lets the participants
take turns until none of them has anything left to do; shutting the session down
lets them do so at once, in the middle of steps taken together.  The turns are
taken in the order in which the participants were woken: whoever puts something
into an empty-handed participant's queue puts that participant at the end of the
line.  So a script has exactly one outcome, and that outcome is a run of the
client (`Client.Run`).

In its turn the manager handles every command, the worker makes every call until
one has to wait, and a delivery task hands over its whole inbox.  A gated
transport lets subscribe calls return one by one, as permits are given.
-/

namespace DeviceLink.Client

open Session (State Item)

inductive Reaction
  | publish (topic : String) (data : Document) (qos : QoS)
  | subscribe (topic : String) (qos : QoS) (reactions : List Reaction)
  | unsubscribe (topic : String)
  /-- The handler does not return. -/
  | fail

/-- A handler: how it reads what it is called with, and what it does then. -/
structure Handler where
  read : String → Item → Except MessageError Document
  reactions : List Reaction := []

def Handler.document (reactions : List Reaction) : Handler :=
  ⟨Format.document.receive, reactions⟩

inductive AckUse
  /-- Its outcome is reported as soon as there is one. -/
  | report
  /-- It is kept without asking for the outcome. -/
  | hold
  /-- It was dropped, or its outcome was reported already. -/
  | ignore
deriving DecidableEq, Repr

inductive CallError
  /-- The script's own data is no value for the call. -/
  | codec (error : CodecError)
  | client (error : ClientError)

inductive Turn
  | manager
  | worker
  | delivery (inbox : Nat)
deriving DecidableEq, Repr

inductive Step
  /-- A call of the client; `handler` is given for subscriptions. -/
  | call (make : State → Except CallError Issued) (handler : Option Handler) (use : AckUse)
  | dispatch (topic : String) (payload : ByteArray)
  | sessionRestored (present : Bool)
  /-- From now on the transport refuses requests for a topic. -/
  | refuse (topic : String) (error : TransportError)
  /-- From now on it does not. -/
  | heal (topic : String)
  /-- Gives permits to a gated transport. -/
  | release (permits : Nat)
  /-- Asks a held acknowledgement whether it is resolved. -/
  | inspect (ack : Nat)
  /-- Reports the outcome of a held acknowledgement from now on. -/
  | complete (ack : Nat)
  /-- Stops the session and waits for it; a worker that cannot finish is cut off. -/
  | shutdown
  /-- Drops the session; its worker may take as long as it likes. -/
  | dropSession
  /-- Drops the session, its dispatcher and its client. -/
  | dropAll

inductive Reply
  | ok
  /-- What the step is about does not exist any more. -/
  | gone
  | issued (subscription : Option Nat) (ack : Nat) (topic : String)
  | failed (error : CallError)
  | channelClosed
  | resolved (topic : String) (b : Bool)

structure Rehearsal where
  session : State := .initial
  line : List Turn := []
  gated : Bool := false
  permits : Nat := 0
  refusals : List (String × TransportError) := []
  /-- The handlers by the number of their subscription. -/
  handlers : List Handler := []
  /-- The acknowledgements by their number, with their topics. -/
  acks : List (AckUse × String) := []
  /-- Whether the session has been neither shut down nor dropped. -/
  hasSession : Bool := true
  /-- Whether client and dispatcher have not been dropped. -/
  hasClient : Bool := true
  /-- Whether requests may have been made in the order of the table. -/
  tableOrdered : Bool := false
  /-- The handler calls of this step, each with its subscription. -/
  deliveries : List (Nat × Except MessageError Document) := []

namespace Rehearsal

/-- Puts a participant at the end of the line, unless it stands in it. -/
def wake (r : Rehearsal) (turn : Turn) : Rehearsal :=
  if r.line.contains turn then r else { r with line := r.line ++ [turn] }

def filledInboxes (before after : State) : List Nat :=
  (List.range after.inboxes.length).filter fun i =>
    match before.inboxes[i]?, after.inboxes[i]? with
    | some b, some a => b.queue.length < a.queue.length
    | none, some _ => true
    | _, none => false

/-- Goes on to another state and wakes whoever got something to do by that. -/
def advance (r : Rehearsal) (after : State) : Rehearsal :=
  let before := r.session
  let r := { r with session := after }
  let r := if before.commands.length < after.commands.length then r.wake .manager else r
  let r := (filledInboxes before after).foldl (fun r i => r.wake (.delivery i)) r
  if before.orders.length < after.orders.length then r.wake .worker else r

def act (r : Rehearsal) (action : Session.Action) : Rehearsal :=
  match r.session.step? action with
  | some after => r.advance after
  | none => r

def keep (r : Rehearsal) (issued : Issued) (handler : Option Handler) (use : AckUse) :
    Rehearsal × Reply :=
  let subscription := handler.map fun _ => r.handlers.length
  let r := r.advance issued.session
  ({ r with
      handlers := r.handlers ++ handler.toList
      acks := r.acks ++ [(use, issued.topic)] },
    .issued subscription issued.ack issued.topic)

def call (r : Rehearsal) (make : State → Except CallError Issued) (handler : Option Handler)
    (use : AckUse) : Rehearsal × Reply :=
  match make r.session with
  | .ok issued => r.keep issued handler use
  | .error e => (r, .failed e)

/-- What a handler does when it is called, up to its failure; errors are of no
interest to it. -/
def react (r : Rehearsal) : Reaction → Rehearsal
  | .publish topic data qos =>
    (r.call (fun s => (publish Format.document s topic data qos).mapError .client) none .report).1
  | .subscribe topic qos reactions =>
    (r.call (fun s => (subscribe s topic qos).mapError .client)
      (some (.document reactions)) .report).1
  | .unsubscribe topic =>
    (r.call (fun s => (unsubscribe s topic).mapError .client) none .report).1
  | .fail => r

def returns : Reaction → Bool
  | .fail => false
  | _ => true

def deliver (r : Rehearsal) (inbox : Nat) : Rehearsal :=
  match r.session.inboxes[inbox]?, r.handlers[inbox]? with
  | some box, some handler =>
    match box.queue with
    | [] => r
    | item :: _ =>
      let fails := !handler.reactions.all returns
      let r := r.act (.deliver inbox fails)
      let r := { r with deliveries := r.deliveries ++ [(inbox, handler.read box.topic item)] }
      (handler.reactions.takeWhile returns).foldl react r
  | _, _ => r

def deliveryTurn (r : Rehearsal) (inbox : Nat) : Rehearsal :=
  let waiting := ((r.session.inboxes[inbox]?).map (·.queue.length)).getD 0
  (List.range waiting).foldl (fun r _ => r.deliver inbox) r

def managerTurn (r : Rehearsal) : Rehearsal :=
  let handleAll (r : Rehearsal) : Rehearsal :=
    (List.range r.session.commands.length).foldl (fun r _ => r.act .handle) r
  let r := (handleAll r).act .close
  let r := r.act .finish
  if r.session.phase = .ended then r.wake .worker else r

def outcome (r : Rehearsal) (topic : String) : Outcome :=
  match r.refusals.lookup topic with
  | some e => .error e
  | none => .ok ()

/-- Lets the current call return, unless it has to wait for a permit. -/
def returnCall (r : Rehearsal) : Option Rehearsal :=
  match r.session.worker with
  | .calling order =>
    let finish (r : Rehearsal) : Rehearsal :=
      (r.act (.answer (r.outcome order.call.topic))).act .settle
    match order.call with
    | .subscribe .. =>
      if !r.gated then some (finish r)
      else if 0 < r.permits then some (finish { r with permits := r.permits - 1 })
      else none
    | _ => some (finish r)
  | _ => some r

def makeCalls : (left : Nat) → Rehearsal → Rehearsal
  | 0, r => r
  | left + 1, r =>
    match returnCall r with
    | none => r
    | some r => makeCalls left (r.act .start)

def workerTurn (r : Rehearsal) : Rehearsal :=
  (makeCalls (r.session.orders.length + 2) r).act .endWorker

def takeTurn (r : Rehearsal) : Rehearsal :=
  match r.line with
  | [] => r
  | turn :: rest =>
    let r := { r with line := rest }
    match turn with
    | .manager => r.managerTurn
    | .worker => r.workerTurn
    | .delivery inbox => r.deliveryTurn inbox

/-- Far more turns than a script can ask for. -/
def turnLimit : Nat := 1000000

def settle : (left : Nat) → Rehearsal → Rehearsal
  | 0, r => r
  | left + 1, r => if r.line = [] then r else settle left r.takeTurn

def unreported (s : State) : List Session.Order :=
  match s.worker with
  | .calling order => order :: s.orders
  | .reporting order _ => order :: s.orders
  | _ => s.orders

/-- Whether items may still come into an inbox, or its subscription has yet to be
made. -/
def isInboxNeeded (s : State) (i : Nat) : Bool :=
  match s.inboxes[i]? with
  | none => true
  | some box =>
    box.live && (box.queue ≠ [] || (s.routes.any fun e => e.2.inbox = i)
      || (unreported s).any fun order => order.observer = .subscription i)

def handlerHoldsClient (r : Rehearsal) : Bool :=
  (List.range r.handlers.length).any fun i =>
    isInboxNeeded r.session i && ((r.handlers[i]?).map fun h => !h.reactions.isEmpty).getD false

def stop (r : Rehearsal) : Rehearsal :=
  { r.act .requestStop with hasSession := false, tableOrdered := true }.wake .manager

/-- Stops the session and waits until the worker has finished.  One that still has
something to do when nobody can go on is cut off. -/
def shutDown (r : Rehearsal) : Rehearsal :=
  settle turnLimit ((settle turnLimit r.stop).act .abortWorker)

/-- Begins a step.  Nobody takes a turn yet, unless the step waits for them. -/
def perform (r : Rehearsal) : Step → Rehearsal × Reply
  | .call make handler use => if r.hasClient then r.call make handler use else (r, .gone)
  | .dispatch topic payload =>
    if r.hasClient then
      match Client.dispatch r.session topic payload with
      | .ok s => (r.advance s, .ok)
      | .error _ => (r, .channelClosed)
    else (r, .gone)
  | .sessionRestored present =>
    let r := { r with tableOrdered := true }
    if r.hasClient then
      match Client.sessionRestored r.session present with
      | .ok s => (r.advance s, .ok)
      | .error _ => (r, .channelClosed)
    else (r, .gone)
  | .refuse topic error =>
    ({ r with refusals := (topic, error) :: r.refusals.filter (·.1 ≠ topic) }, .ok)
  | .heal topic => ({ r with refusals := r.refusals.filter (·.1 ≠ topic) }, .ok)
  | .release permits => ({ r with permits := r.permits + permits }.wake .worker, .ok)
  | .inspect ack =>
    match r.acks[ack]? with
    | some (.hold, topic) =>
      (r, .resolved topic ((r.session.acks[ack]?.map Option.isSome).getD false))
    | _ => (r, .gone)
  | .complete ack =>
    match r.acks[ack]? with
    | some (.hold, topic) => ({ r with acks := r.acks.set ack (.report, topic) }, .ok)
    | _ => (r, .gone)
  | .shutdown =>
    if r.hasSession then (r.shutDown, .ok)
    else ({ r with tableOrdered := true }, .gone)
  | .dropSession => (r.stop, .ok)
  | .dropAll =>
    let r := { r.stop with hasClient := false }
    (if r.handlerHoldsClient then r else r.act .dropCallers, .ok)

def performAll (r : Rehearsal) : List Step → Rehearsal × List Reply
  | [] => (r, [])
  | step :: rest =>
    let (r, reply) := r.perform step
    let (r, replies) := r.performAll rest
    (r, reply :: replies)

structure Report where
  replies : List Reply
  calls : List TransportCall
  acks : List (Nat × Outcome)
  deliveries : List (Nat × Except MessageError Document)

/-- The kinds of requests whose order may be the table's. -/
inductive CallKind
  | subscribe
  | unsubscribe
  | publish
deriving DecidableEq

def CallKind.of : TransportCall → CallKind
  | .subscribe .. => .subscribe
  | .unsubscribe .. => .unsubscribe
  | .publish .. => .publish

/-- By topic, then by guarantee. -/
def callLE (a b : TransportCall) : Bool :=
  let level : TransportCall → Nat
    | .subscribe _ qos => qos.level
    | _ => 0
  a.topic < b.topic || (a.topic == b.topic && level a ≤ level b)

/-- The table has no order, so neither have the requests made from it: each run
of one kind is listed by topic.  Published messages stay where they are. -/
def normalise (calls : List TransportCall) : List TransportCall :=
  let runs := calls.splitBy fun a b => CallKind.of a = CallKind.of b
  (runs.map fun run =>
    if run.all fun c => CallKind.of c ≠ .publish then run.mergeSort callLE else run).flatten

def newOutcomes (r : Rehearsal) : List (Nat × Outcome) :=
  (List.range r.acks.length).filterMap fun (n : Nat) =>
    match r.acks[n]?, r.session.acks[n]? with
    | some (.report, _), some (some outcome) => some (n, outcome)
    | _, _ => none

/-- Takes steps together, lets everyone take turns, and reports what happened. -/
def take (r : Rehearsal) (steps : List Step) : Rehearsal × Report :=
  let madeBefore := r.session.calls.length
  let (r, replies) := { r with deliveries := [] }.performAll steps
  let r := settle turnLimit r
  let calls := r.session.calls.drop madeBefore
  let outcomes := r.newOutcomes
  let report : Report := {
    replies
    calls := if r.tableOrdered then normalise calls else calls
    acks := outcomes
    deliveries := r.deliveries.mergeSort fun a b => a.1 ≤ b.1 }
  ({ r with
      acks := outcomes.foldl (fun acks o => acks.modify o.1 fun a => (.ignore, a.2)) r.acks },
    report)

/-- The reports of a script, each entry of which is one or more steps. -/
def run (r : Rehearsal) : List (List Step) → List Report
  | [] => []
  | steps :: rest =>
    let (r, report) := r.take steps
    report :: r.run rest

end Rehearsal

end DeviceLink.Client
