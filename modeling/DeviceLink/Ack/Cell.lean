import DeviceLink.Text.Quoted
import DeviceLink.Transport.Basic

/-!
# One-shot acknowledgements

Every request has an acknowledgement that is resolved once.  Several completers
may try to resolve it and the first one wins; when the last completer is gone
without having tried, the connection is taken to be closed.  The other side
waits for the outcome in one of two ways: it asks now and then, or it leaves a
callback.  Either way it learns the outcome once.

A callback may own a completer of the acknowledgement that it waits for.  That
completer keeps the acknowledgement open like any other, and what the callback
tries with it always comes too late.

All sides may act at the same time.  `Cell.step` is what each of them does in one
go, and a series of events is any interleaving of them.  An attempt that wins
takes the callback out of the cell in the same go, but calls it only afterwards,
so others may act before the call, and again before the callback returns.
`Cell.run` is the series in which nobody does: it lets a callback run as soon as
it is due.
-/

namespace DeviceLink.Ack

/-- The waiting side of an acknowledgement. -/
inductive Consumer
  /-- The acknowledgement is held; an outcome stays until it is asked for. -/
  | holder
  /-- A callback waits; it may own a completer. -/
  | callback (ownsCompleter : Bool)
  /-- A callback is about to be called with an outcome. -/
  | due (ownsCompleter : Bool) (outcome : Outcome)
  /-- The callback has been called and has not returned; it may still own its
  completer. -/
  | running (ownsCompleter : Bool)
  /-- The outcome has been asked for, or the callback has returned. -/
  | gone
  /-- The acknowledgement was dropped while it was held. -/
  | dropped
deriving DecidableEq, Repr

/-- An acknowledgement with its completers, by number; dropped ones are `false`. -/
structure Cell where
  outcome : Option Outcome := none
  completers : List Bool := [true]
  consumer : Consumer := .holder
deriving DecidableEq

/-- Someone who can try to resolve: a completer by its number, or the one that the
callback owns. -/
inductive Completer
  | held (i : Nat)
  | owned
deriving DecidableEq, Repr

instance : Coe Nat Completer := ⟨.held⟩

/-- A callback was invoked with an outcome.  If it owned a completer, `attempt`
is what its own attempt to resolve the acknowledgement returned. -/
structure Invocation where
  outcome : Outcome
  attempt : Option Bool
deriving DecidableEq

namespace Cell

def isResolved (c : Cell) : Bool := c.outcome.isSome

/-- Whether someone can use a completer.  The callback can use its own while it
runs. -/
def hasCompleter (c : Cell) : Completer → Bool
  | .held i => c.completers[i]?.getD false
  | .owned => c.consumer = .running true

def callbackOwnsCompleter (c : Cell) : Bool :=
  match c.consumer with
  | .callback owns | .due owns _ | .running owns => owns
  | .holder | .gone | .dropped => false

def isAbandoned (c : Cell) : Bool := !c.completers.any id && !c.callbackOwnsCompleter

/-- An attempt to resolve, and whether it was the first one.  A callback that
waits is due then. -/
def resolve (c : Cell) (result : Outcome) : Cell × Bool :=
  if c.isResolved then (c, false)
  else
    match c.consumer with
    | .callback owns => ({ c with outcome := some result, consumer := .due owns result }, true)
    | _ => ({ c with outcome := some result }, true)

def closeIfAbandoned (c : Cell) : Cell :=
  if c.isAbandoned then (c.resolve (.error .connectionClosed)).1 else c

/-- Without one completer.  Dropping the last one closes the acknowledgement. -/
def release (c : Cell) : Completer → Cell
  | .held i => { c with completers := c.completers.set i false }.closeIfAbandoned
  | .owned => { c with consumer := .running false }.closeIfAbandoned

end Cell

inductive Event
  | clone (completer : Completer)
  | complete (completer : Completer) (result : Outcome)
  /-- Asks through a completer whether it is resolved. -/
  | query (completer : Completer)
  | drop (completer : Completer)
  /-- Asks through the acknowledgement whether it is resolved. -/
  | inspect
  | poll
  /-- Leaves a callback, which may own another handle of a completer. -/
  | onComplete (owned : Option Completer)
  | dropAck
  /-- The callback that is due is called. -/
  | call
  /-- The callback returns, and lets go of the completer that it owns. -/
  | finish
deriving DecidableEq

inductive Reply
  /-- The completer, the acknowledgement or the callback does not exist any more. -/
  | gone
  | cloned (completer : Nat)
  | completed (first : Bool)
  | resolved (b : Bool)
  | dropped
  | pending
  /-- The waiting side learns the outcome. -/
  | ready (outcome : Outcome)
  | registered
deriving DecidableEq

namespace Cell

def step (c : Cell) : Event → Cell × Reply
  | .clone i =>
    if c.hasCompleter i then
      ({ c with completers := c.completers ++ [true] }, .cloned c.completers.length)
    else (c, .gone)
  | .complete i result =>
    if c.hasCompleter i then
      let (c, first) := c.resolve result
      (c, .completed first)
    else (c, .gone)
  | .query i => if c.hasCompleter i then (c, .resolved c.isResolved) else (c, .gone)
  | .drop i => if c.hasCompleter i then (c.release i, .dropped) else (c, .gone)
  | .inspect => if c.consumer = .holder then (c, .resolved c.isResolved) else (c, .gone)
  | .poll =>
    match c.consumer, c.outcome with
    | .holder, some outcome => ({ c with consumer := .gone }, .ready outcome)
    | .holder, none => (c, .pending)
    | _, _ => (c, .gone)
  | .onComplete owned =>
    let owns := owned.any c.hasCompleter
    match c.consumer, c.outcome with
    | .holder, some outcome => ({ c with consumer := .due owns outcome }, .registered)
    | .holder, none => ({ c with consumer := .callback owns }, .registered)
    | _, _ => (c, .gone)
  | .dropAck =>
    if c.consumer = .holder then ({ c with consumer := .dropped }, .dropped) else (c, .gone)
  | .call =>
    match c.consumer with
    | .due owns outcome => ({ c with consumer := .running owns }, .ready outcome)
    | _ => (c, .gone)
  | .finish =>
    match c.consumer with
    | .running _ => ({ c with consumer := .gone }.closeIfAbandoned, .dropped)
    | _ => (c, .gone)

/-- Lets a callback that is due run to its end.  One that owns a completer makes
an attempt with it. -/
def attend (c : Cell) : Cell × List Invocation :=
  match c.consumer with
  | .due owns outcome =>
    let (c, _) := c.step .call
    if owns then
      let (c, reply) := c.step (.complete .owned (.ok ()))
      ((c.step .finish).1, [⟨outcome, some (reply = .completed true)⟩])
    else ((c.step .finish).1, [⟨outcome, none⟩])
  | _ => (c, [])

/-- The answers of a series of events, and the callbacks that ran after each. -/
def run (c : Cell) : List Event → List (Reply × List Invocation)
  | [] => []
  | e :: rest =>
    let (c, reply) := c.step e
    let (c, calls) := c.attend
    (reply, calls) :: c.run rest

end Cell

def completerText (resolved : Bool) : String :=
  "AckCompleter \x7b resolved: " ++ (if resolved then "true" else "false") ++ " \x7d"

def pendingText (topic : String) (resolved : Bool) : String :=
  "PendingAck \x7b topic: " ++ Text.quoted topic
    ++ ", resolved: " ++ (if resolved then "true" else "false") ++ " \x7d"

end DeviceLink.Ack
