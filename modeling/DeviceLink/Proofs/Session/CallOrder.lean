import DeviceLink.Proofs.Session.History

/-!
# The transport sees one sequence of calls

Two queues and two tasks lie between a caller and the transport, and refusals
come back through the first of them.  Still the transport sees what one
sequential log says: the manager's deeds in their order, each replaced by its
calls (`Deed.Calls`).  Outcomes do not change the log.  As long as the session
runs the calls are a beginning of it, and they are all of it once the worker has
ended by itself.
-/

namespace DeviceLink.Session

/-! ## What the manager does -/

/-- Something that the manager does, with the state in which it does it. -/
inductive Deed
  | perform (before : State) (command : Command)
  /-- It releases every route and ends. -/
  | finish (before : State)

namespace Deed

def command? : Deed → Option Command
  | perform _ command => some command
  | finish _ => none

/-- What a deed asks of the transport.  The table lists its routes in any order. -/
inductive Calls : Deed → List TransportCall → Prop
  | subscribe {s : State} {topic : String} {qos : QoS} {ack : Nat} :
      Calls (perform s (.subscribe topic qos ack)) [.subscribe topic qos]
  | unsubscribe {s : State} {topic : String} {ack : Nat} :
      Calls (perform s (.unsubscribe topic ack)) [.unsubscribe topic]
  | publish {s : State} {topic : String} {payload : ByteArray} {qos : QoS} {ack : Nat} :
      Calls (perform s (.publish topic payload qos ack)) [.publish topic payload qos]
  | resubscribe {s : State} {calls : List TransportCall}
      (each : calls.Perm (s.routes.map fun e => .subscribe e.1 e.2.qos)) :
      Calls (perform s .resubscribe) calls
  | dispatch {s : State} {topic : String} {payload : ByteArray}
      (taken : ∀ route, s.routes.get? topic = some route → s.isInboxOpen route.inbox = true) :
      Calls (perform s (.dispatch topic payload)) []
  | dispatchGone {s : State} {topic : String} {payload : ByteArray} {route : Route}
      (found : s.routes.get? topic = some route) (gone : s.isInboxOpen route.inbox = false) :
      Calls (perform s (.dispatch topic payload)) [.unsubscribe topic]
  | subscribeFailed {s : State} {topic : String} {id : UInt64} :
      Calls (perform s (.subscribeFailed topic id)) []
  | finish {s : State} {calls : List TransportCall}
      (each : calls.Perm (s.routes.map fun e => .unsubscribe e.1)) :
      Calls (finish s) calls

def orders : Deed → List Order
  | perform s command => s.ordersFor command
  | finish s => State.releaseOrders s.routes

theorem calls_orders (deed : Deed) : deed.Calls (deed.orders.map Order.call) := by
  cases deed with
  | finish s =>
      have hcalls : (orders (finish s)).map Order.call =
          s.routes.map fun e => .unsubscribe e.1 := by
        simp [orders, State.releaseOrders, Function.comp_def]
      rw [hcalls]
      exact .finish (List.Perm.refl _)
  | perform s command =>
      cases command with
      | subscribe topic qos ack => exact .subscribe
      | unsubscribe topic ack => exact .unsubscribe
      | publish topic payload qos ack => exact .publish
      | subscribeFailed topic id => exact .subscribeFailed
      | resubscribe =>
          have hcalls : (orders (perform s .resubscribe)).map Order.call =
              s.routes.map fun e => .subscribe e.1 e.2.qos := by
            simp [orders, State.ordersFor, State.resubscribeOrders, Function.comp_def]
          rw [hcalls]
          exact .resubscribe (List.Perm.refl _)
      | dispatch topic payload =>
          show Calls (perform s (.dispatch topic payload))
            ((s.ordersFor (.dispatch topic payload)).map Order.call)
          rw [State.ordersFor]
          split
          · next hgone =>
              obtain ⟨route, hfound, hclosed⟩ := (Option.any_eq_true _ _).mp hgone
              exact .dispatchGone hfound (by simpa using hclosed)
          · next hkept =>
              refine .dispatch fun route hfound => ?_
              by_contra hclosed
              exact hkept ((Option.any_eq_true _ _).mpr ⟨route, hfound, by simpa using hclosed⟩)

end Deed

def State.deed? (s : State) : Action → Option Deed
  | .handle => s.commands.head?.map (Deed.perform s)
  | .finish => some (.finish s)
  | _ => none

def State.deeds (s : State) : List Action → List Deed
  | [] => []
  | a :: rest =>
    match s.step? a with
    | some t => (s.deed? a).toList ++ t.deeds rest
    | none => []

theorem deeds_concat {actions : List Action} {s t u : State} {a : Action}
    (run : s.run? actions = some t) (step : Step t a u) :
    s.deeds (actions ++ [a]) = s.deeds actions ++ (t.deed? a).toList := by
  induction actions generalizing s with
  | nil =>
      obtain rfl := Option.some.inj run
      simp [State.deeds, State.step?_of_step step]
  | cons b rest ih =>
      rw [State.run?] at run
      rw [List.cons_append, State.deeds, State.deeds]
      cases hstep : s.step? b with
      | none => simp [hstep] at run
      | some v =>
          rw [hstep] at run
          simp only [ih run, List.append_assoc]

/-- A step makes the orders of its deed. -/
theorem ordered_extend (h : History) {s t : State} {a : Action} (step : Step s a t) :
    (h.extend s a).ordered = h.ordered ++ (s.deed? a).toList.flatMap Deed.orders ∧
      (h.extend s a).handled = h.handled ++ (s.deed? a).toList.filterMap Deed.command? := by
  cases step with
  | handle hactive hfront => simp [History.extend, State.deed?, hfront, Deed.orders, Deed.command?]
  | finish hdraining hhandled => simp [History.extend, State.deed?, Deed.orders, Deed.command?]
  | start hidle hfront => simp [History.extend, State.deed?, hfront]
  | answer hcalling => simp [History.extend, State.deed?, hcalling]
  | settle hreporting => simp [History.extend, State.deed?, hreporting]
  | @deliver inbox box item rest fails hfound hfront hlive =>
      cases fails <;> simp [History.extend, State.deed?]
  | _ => simp [History.extend, State.deed?]

/-- The history of a run keeps the commands and the orders of the manager's
deeds. -/
theorem deeds_of_run {actions : List Action} {s : State}
    (run : State.initial.run? actions = some s) :
    (history actions).ordered = (State.initial.deeds actions).flatMap Deed.orders ∧
      (history actions).handled = (State.initial.deeds actions).filterMap Deed.command? := by
  refine @State.run_induction _ _ (fun actions _ =>
    (history actions).ordered = (State.initial.deeds actions).flatMap Deed.orders ∧
      (history actions).handled = (State.initial.deeds actions).filterMap Deed.command?)
    ⟨rfl, rfl⟩ ?_ _ run
  intro actions a u t hrun ⟨hordered, hhandled⟩ hstep
  obtain ⟨hmore, hnext⟩ := ordered_extend (history actions) hstep
  rw [history_concat hrun hstep, deeds_concat hrun hstep, hmore, hnext, hordered, hhandled,
    List.flatMap_append, List.filterMap_append]
  exact ⟨rfl, rfl⟩

/-! ## What the worker does with it -/

/-- A worker that is not cut off drops nothing. -/
theorem dropped_of_not_aborted {actions : List Action} {s : State}
    (run : State.initial.run? actions = some s) (finishes : .abortWorker ∉ actions) :
    (history actions).dropped = [] := by
  refine @State.run_induction _ _
    (fun actions _ => .abortWorker ∉ actions → (history actions).dropped = [])
    (fun _ => rfl) ?_ _ run finishes
  intro actions a u t hrun ih hstep hfinishes
  rw [List.mem_append, not_or] at hfinishes
  rw [history_concat hrun hstep, ← ih hfinishes.1]
  cases hstep with
  | abort hended hwaiting => exact absurd List.mem_cons_self hfinishes.2
  | handle hactive hfront => simp only [History.extend, hfront]
  | start hidle hfront => simp only [History.extend, hfront]
  | answer hcalling => simp only [History.extend, hcalling]
  | settle hreporting => simp only [History.extend, hreporting]
  | @deliver inbox box item rest fails hfound hfront hlive =>
      cases fails <;> rfl
  | _ => rfl

/-- A worker that has ended and dropped nothing has called the transport for
every order. -/
theorem started_of_ended {actions : List Action} {s : State}
    (run : State.initial.run? actions = some s) (ended : s.worker = .ended)
    (drained : (history actions).dropped = []) :
    (history actions).started = (history actions).ordered := by
  refine @State.run_induction _ _ (fun actions s => s.worker = .ended →
      (history actions).dropped = [] → (history actions).started = (history actions).ordered)
    (fun _ _ => rfl) ?_ _ run ended drained
  intro actions a u t hrun ih hstep hended hdrained
  have flows := flows_of_run hrun
  rw [history_concat hrun hstep] at hdrained ⊢
  cases hstep with
  | handle hactive hfront => exact absurd (flows.workerEnded hended).1 hactive
  | finish hdraining hhandled =>
      exact absurd (hdraining.symm.trans (flows.workerEnded hended).1) (by simp)
  | start hidle hfront => exact absurd hended (by simp)
  | answer hcalling => exact absurd hended (by simp)
  | settle hreporting => exact absurd hended (by simp)
  | endWorker hphase hidle hdone =>
      have hall := (flows.working (by simp [hidle])).2
      rw [hdone, List.append_nil] at hall
      exact hall.symm
  | abort hphase hwaiting =>
      have hbusy : u.worker ≠ .ended := by
        rcases hwaiting with hidle | ⟨order, hcalling⟩
        · simp [hidle]
        · simp [hcalling]
      have hnone : u.orders = [] := (List.append_eq_nil_iff.mp hdrained).2
      have hall := (flows.working hbusy).2
      rw [hnone, List.append_nil] at hall
      exact hall.symm
  | @deliver inbox box item rest fails hfound hfront hlive =>
      cases fails <;> exact ih hended hdrained
  | _ => exact ih hended hdrained

/-- The calls on the transport are at every time a beginning of one sequence: that
of the commands in the order in which they were performed, each replaced by its
calls, and the release of all routes at the end.  They are the whole sequence
when the worker has ended without being cut off. -/
theorem calls_follow_commands {actions : List Action} {s : State}
    (run : State.initial.run? actions = some s) :
    (State.initial.deeds actions).filterMap Deed.command? = (history actions).handled ∧
      ∃ calls, List.Forall₂ Deed.Calls (State.initial.deeds actions) calls ∧
        s.calls <+: calls.flatten ∧
        (s.worker = .ended → .abortWorker ∉ actions → s.calls = calls.flatten) := by
  have flows := flows_of_run run
  obtain ⟨hordered, hhandled⟩ := deeds_of_run run
  refine ⟨hhandled.symm, (State.initial.deeds actions).map fun d => d.orders.map Order.call, ?_⟩
  have heach : List.Forall₂ Deed.Calls (State.initial.deeds actions)
      ((State.initial.deeds actions).map fun d => d.orders.map Order.call) := by
    rw [List.forall₂_map_right_iff, List.forall₂_same]
    exact fun d _ => d.calls_orders
  have hall : ((State.initial.deeds actions).map fun d => d.orders.map Order.call).flatten =
      (history actions).ordered.map Order.call := by
    rw [hordered, List.map_flatMap, List.flatMap_def]
  rw [hall, flows.calls]
  refine ⟨heach, flows.started.map Order.call, fun hended hfinishes => ?_⟩
  rw [started_of_ended run hended (dropped_of_not_aborted run hfinishes)]

/-- One topic is subscribed and another one published to; the first call is
refused, the connection is lost once, and the session is told to stop. -/
def refusedThenStopped : List Action :=
  [.submit (.subscribe "a" .atLeastOnce), .submit (.subscribe "b" .atMostOnce),
    .submit (.publish "c" ⟨#[1]⟩ .exactlyOnce), .handle, .start, .handle,
    .answer (.error (.rejected "no")), .submit .resubscribe, .handle, .settle, .handle, .handle,
    .start, .requestStop, .close, .answer (.ok ()), .settle, .finish, .start, .answer (.ok ()),
    .settle, .start, .answer (.ok ()), .settle, .start, .answer (.ok ()), .settle, .endWorker]

def afterRefusedThenStopped : State := (State.initial.run? refusedThenStopped).getD .initial

theorem refusal_changes_no_call :
    State.initial.run? refusedThenStopped = some afterRefusedThenStopped ∧
      afterRefusedThenStopped.worker = .ended ∧ .abortWorker ∉ refusedThenStopped ∧
      afterRefusedThenStopped.calls =
        [.subscribe "a" .atLeastOnce, .subscribe "b" .atMostOnce, .publish "c" ⟨#[1]⟩ .exactlyOnce,
          .subscribe "b" .atMostOnce, .unsubscribe "b"] ∧
      ∃ calls, List.Forall₂ Deed.Calls (State.initial.deeds refusedThenStopped) calls ∧
        afterRefusedThenStopped.calls = calls.flatten := by
  have hrun : State.initial.run? refusedThenStopped = some afterRefusedThenStopped := by decide
  have hended : afterRefusedThenStopped.worker = .ended := by decide
  have hfinishes : .abortWorker ∉ refusedThenStopped := by decide
  obtain ⟨-, calls, heach, -, hall⟩ := calls_follow_commands hrun
  exact ⟨hrun, hended, hfinishes, by decide, calls, heach, hall hended hfinishes⟩

end DeviceLink.Session
