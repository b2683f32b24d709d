import DeviceLink.Client.Call
import DeviceLink.Proofs.Session.CallOrder
import DeviceLink.Proofs.Session.Delivery
import DeviceLink.Proofs.Session.Refusal

/-!
# Bringing routes back

When the connection has lost its session the manager subscribes every topic in
the table again (`restoringOrder`).  Such a call is made for the subscription that
has the route at that moment, and the answer may come when the route is long gone
or has another holder.  It is still that subscription's handler that learns of a
failure: at any time the failures among the items of an inbox are those of the
calls made for it that have ended, in their order (`Warned`).  No such call takes
a route away, for it carries no subscription's id.
-/

namespace DeviceLink.Session

def restoringOrder (topic : String) (route : Route) : Order :=
  ⟨.subscribe topic route.qos, .subscription route.inbox, none⟩

def Item.isFailure : Item → Bool
  | message _ => false
  | failure _ => true

def warnings (items : List Item) : List Item := items.filter Item.isFailure

@[simp] theorem warnings_append (items more : List Item) :
    warnings (items ++ more) = warnings items ++ warnings more :=
  List.filter_append ..

@[simp] theorem warnings_itemsFor (s : State) (inbox : Nat) (command : Command) :
    warnings (s.itemsFor inbox command) = [] := by
  cases command with
  | dispatch topic payload =>
      rw [State.itemsFor]
      split <;> rfl
  | _ => rfl

@[simp] theorem warnings_failuresFor (inbox : Nat) (endings : List Ending) :
    warnings (State.failuresFor inbox endings) = State.failuresFor inbox endings := by
  refine List.filter_eq_self.mpr fun item hitem => ?_
  obtain ⟨e, -, he⟩ := List.mem_filterMap.mp hitem
  split at he
  · obtain ⟨-, hfailure⟩ := Option.ite_none_right_eq_some.mp he
    exact Option.some.inj hfailure ▸ rfl
  · exact absurd he (by simp)

@[simp] theorem failuresFor_append (inbox : Nat) (endings more : List Ending) :
    State.failuresFor inbox (endings ++ more) =
      State.failuresFor inbox endings ++ State.failuresFor inbox more :=
  List.filterMap_append

/-- The end of a call that brings a route back is a failure for the route's
handler or for nobody. -/
theorem failuresFor_restoringOrder (inbox : Nat) (topic : String) (route : Route)
    (outcome : Outcome) : State.failuresFor inbox [(restoringOrder topic route, outcome)] =
      match outcome with
      | .error error => if inbox = route.inbox then [.failure error] else []
      | .ok () => [] := by
  cases outcome with
  | ok u => rfl
  | error error =>
      by_cases h : inbox = route.inbox
      · simp [State.failuresFor, restoringOrder, h]
      · simp [State.failuresFor, restoringOrder, h, Ne.symm h]

/-! ## Calls made for a subscription -/

/-- A call that is made for a subscription brings back the route that this
subscription got. -/
theorem restoring_of_run {actions : List Action} {s : State}
    (run : State.initial.run? actions = some s) {order : Order} {inbox : Nat}
    (made : order ∈ (history actions).ordered) (observed : order.observer = .subscription inbox) :
    ∃ before topic route ack after,
      (history actions).handled = before ++ .subscribe topic route.qos ack :: after ∧
        inbox = subscriptions before ∧ route.inbox = inbox ∧
        order = restoringOrder topic route := by
  refine @history_induction (fun h _ => ∀ order ∈ h.ordered, order.observer = .subscription inbox →
    ∃ before topic route ack after,
      h.handled = before ++ .subscribe topic route.qos ack :: after ∧
        inbox = subscriptions before ∧ route.inbox = inbox ∧ order = restoringOrder topic route)
    (fun _ hmem => absurd hmem List.not_mem_nil) ?_ _ _ run order made observed
  intro actions s a t hrun ih hstep order hmem hobserver
  have reg := registered_of_run hrun
  rcases manager_step (history actions) hstep with
    ⟨command, rest, -, hfront, rfl, -⟩ | ⟨-, rfl, -⟩ | ⟨hhandled, hordered, -⟩
  · simp only [History.extend, hfront] at hmem ⊢
    rcases List.mem_append.mp hmem with hold | hmade
    · obtain ⟨before, topic, route, ack, after, hsplit, hrest⟩ := ih order hold hobserver
      exact ⟨before, topic, route, ack, after ++ [command], by simp [hsplit], hrest⟩
    · cases State.makes_of_mem hmade with
      | @resubscribe topic route hlisted =>
          have hheld := reg.held topic route (reg.onePerTopic.get?_eq_some_iff.mpr hlisted)
          obtain ⟨before, ack, after, hsplit, hinbox, -, -⟩ := hheld
          have hsame := Observer.subscription.inj hobserver
          exact ⟨before, topic, route, ack, after ++ [.resubscribe], by simp [hsplit],
            hsame ▸ hinbox, hsame, rfl⟩
      | _ => exact absurd hobserver (by simp)
  · rcases List.mem_append.mp hmem with hold | hmade
    · exact ih order hold hobserver
    · obtain ⟨e, -, rfl⟩ := List.mem_map.mp hmade
      exact absurd hobserver (by simp)
  · rw [hordered] at hmem
    rw [hhandled]
    exact ih order hmem hobserver

/-- No call is made for a subscription that does not exist yet. -/
theorem failuresFor_fresh {actions : List Action} {s : State}
    (run : State.initial.run? actions = some s) {inbox : Nat} (fresh : s.inboxes.length ≤ inbox) :
    State.failuresFor inbox (history actions).settled = [] := by
  have flows := flows_of_run run
  refine failuresFor_eq_nil fun e he hobserver => ?_
  have hordered := flows.settled_prefix.subset (List.mem_map_of_mem he)
  obtain ⟨before, topic, route, ack, after, hsplit, hinbox, -, -⟩ :=
    restoring_of_run run hordered hobserver
  have hnumber := (registered_of_run run).inboxes
  rw [hsplit, subscriptions_append_cons] at hnumber
  omega

/-! ## What a handler learns -/

/-- The failures that a handler has learned of, or is about to, are those of the
calls made for its subscription that have ended. -/
def Warned (h : History) (s : State) : Prop :=
  h.failed = [] → ∀ (n : Nat) (box : Inbox), s.inboxes[n]? = some box →
    warnings box.delivered ++ warnings box.queue = State.failuresFor n h.settled

namespace Warned

variable {h : History} {s t : State} {a : Action}

theorem initial : Warned {} .initial :=
  fun _ _ _ hbox => absurd hbox (by simp [State.initial])

/-- An inbox that a command has made is empty. -/
theorem new_inbox (s : State) (command : Command) {n : Nat} {box : Inbox}
    (found : (s.inboxesAfter command)[n]? = some box) (new : s.inboxes.length ≤ n) :
    box.delivered = [] ∧ box.queue = [] := by
  have hlen := (List.getElem?_eq_some_iff.mp found).1
  rw [State.length_inboxesAfter] at hlen
  cases command with
  | subscribe topic qos ack =>
      have hlast : n = s.inboxes.length := by simp [Command.isSubscribe] at hlen; omega
      subst hlast
      rw [State.inboxesAfter, List.getElem?_concat_length] at found
      obtain rfl := Option.some.inj found
      exact ⟨rfl, rfl⟩
  | _ => simp [Command.isSubscribe] at hlen; omega

theorem handle {actions : List Action} (run : State.initial.run? actions = some s)
    (warned : Warned (history actions) s) {command : Command} {rest : List Command}
    (front : s.commands = command :: rest) :
    Warned ((history actions).extend s .handle) { s with
      commands := rest
      routes := s.routesAfter command
      inboxes := s.inboxesAfter command
      orders := s.orders ++ s.ordersFor command
      nextId := s.nextIdAfter command } := by
  simp only [History.extend, front]
  intro returned n box hbox
  by_cases hold : n < s.inboxes.length
  · rw [State.getElem?_inboxesAfter command hold] at hbox
    obtain ⟨old, hfound, rfl⟩ := Option.map_eq_some_iff.mp hbox
    have hlive := (registered_of_run run).live returned n old hfound
    rw [Inbox.put_delivered, Inbox.put_queue hlive, warnings_append, warnings_itemsFor,
      List.append_nil]
    exact warned returned n old hfound
  · obtain ⟨hdelivered, hqueue⟩ := new_inbox s command hbox (Nat.le_of_not_lt hold)
    rw [hdelivered, hqueue]
    exact (failuresFor_fresh run (Nat.le_of_not_lt hold)).symm

/-- A report puts what it reports into the inboxes. -/
theorem toldInboxes (reg : Registered h s) (warned : Warned h s) (endings : List Ending)
    {told : History} {u : State} (settled : told.settled = h.settled ++ endings)
    (failed : told.failed = h.failed) (inboxes : u.inboxes = State.toldInboxes s.inboxes endings) :
    Warned told u := by
  intro returned n box hbox
  rw [failed] at returned
  rw [inboxes, State.getElem?_toldInboxes] at hbox
  obtain ⟨old, hfound, rfl⟩ := Option.map_eq_some_iff.mp hbox
  have hlive := reg.live returned n old hfound
  rw [Inbox.put_delivered, Inbox.put_queue hlive, warnings_append, warnings_failuresFor,
    ← List.append_assoc, warned returned n old hfound, settled, failuresFor_append]

theorem deliver (warned : Warned h s) {inbox : Nat} {box : Inbox} {item : Item}
    {rest : List Item} (found : s.inboxes[inbox]? = some box) (front : box.queue = item :: rest) :
    Warned h { s with
      inboxes := s.inboxes.set inbox { box with
        delivered := box.delivered ++ [item]
        queue := rest
        live := true } } := by
  intro returned n other hother
  by_cases hn : inbox = n
  · subst hn
    rw [List.getElem?_set_self (List.getElem?_eq_some_iff.mp found).1] at hother
    obtain rfl := Option.some.inj hother
    rw [← warned returned inbox box found, front, warnings_append, List.append_assoc,
      ← warnings_append]
    rfl
  · rw [List.getElem?_set_ne hn] at hother
    exact warned returned n other hother

theorem step {actions : List Action} (run : State.initial.run? actions = some s)
    (warned : Warned (history actions) s) (step : Step s a t) :
    Warned ((history actions).extend s a) t := by
  have reg := registered_of_run run
  cases step with
  | handle hactive hfront => exact warned.handle run hfront
  | settle hreporting =>
      simp only [History.extend, hreporting]
      exact warned.toldInboxes reg _ rfl rfl rfl
  | abort hended hwaiting => exact warned.toldInboxes reg _ rfl rfl rfl
  | @deliver inbox box item rest fails hfound hfront hlive =>
      cases fails with
      | true => exact fun returned => absurd returned (by simp [History.extend])
      | false => exact warned.deliver hfound hfront
  | start hidle hfront =>
      simp only [History.extend, hfront]
      exact warned
  | answer hcalling =>
      simp only [History.extend, hcalling]
      exact warned
  | submit hopen => exact warned
  | requestStop => exact warned
  | dropCallers => exact warned
  | close hrunning hstops => exact warned
  | finish hdraining hhandled => exact warned
  | reorder hperm => exact warned
  | endWorker hended hidle hdone => exact warned

end Warned

theorem warned_of_run {actions : List Action} {s : State}
    (run : State.initial.run? actions = some s) : Warned (history actions) s :=
  history_induction Warned.initial (fun hrun warned hstep => warned.step hrun hstep) run

/-! ## What becomes of a call -/

/-- What the manager has done stays as it was when it does more. -/
theorem made_run {actions more : List Action} {s t : State}
    (run : State.initial.run? actions = some s) (later : s.run? more = some t) :
    (history actions).ordered <+: (history (actions ++ more)).ordered ∧
      (history actions).handled <+: (history (actions ++ more)).handled := by
  refine @State.run_induction _ _ (fun more _ =>
    (history actions).ordered <+: (history (actions ++ more)).ordered ∧
      (history actions).handled <+: (history (actions ++ more)).handled)
    (by rw [List.append_nil]; exact ⟨List.prefix_refl _, List.prefix_refl _⟩) ?_ _ later
  intro more a u t hmore ⟨hordered, hhandled⟩ hstep
  have hwhole : State.initial.run? (actions ++ more) = some u := by
    rw [State.run?_append, run]
    exact hmore
  obtain ⟨hmade, hdone⟩ := ordered_extend (history (actions ++ more)) hstep
  rw [← List.append_assoc, history_concat hwhole hstep, hmade, hdone]
  exact ⟨hordered.trans (List.prefix_append _ _), hhandled.trans (List.prefix_append _ _)⟩

namespace Flows

variable {h : History} {s : State}

/-- The orders end in the order in which they were made. -/
theorem settled_order (flows : Flows h s) {before after : List Ending} {e : Ending}
    (settled : h.settled = before ++ e :: after) : h.ordered[before.length]? = some e.1 := by
  rw [flows.ordered, settled, List.map_append, List.map_cons, List.append_assoc,
    List.getElem?_append_right (by simp)]
  simp

/-- An order ends with the answer to its call, or, if there was none, with the
connection closed. -/
theorem settled_outcome (flows : Flows h s) {before after : List Ending} {e : Ending}
    (settled : h.settled = before ++ e :: after) :
    h.answered[before.length]? = some e ∨
      (h.answered[before.length]? = none ∧ e.2 = .error .connectionClosed) := by
  have hthere : (h.answered ++ State.closings h.dropped)[before.length]? = some e := by
    rw [← flows.settled, settled, List.append_assoc, List.getElem?_append_right (Nat.le_refl _)]
    simp
  by_cases hlt : before.length < h.answered.length
  · rw [List.getElem?_append_left hlt] at hthere
    exact Or.inl hthere
  · have hle := Nat.le_of_not_lt hlt
    rw [List.getElem?_append_right hle] at hthere
    obtain ⟨order, -, rfl⟩ := List.mem_map.mp (List.mem_of_getElem? hthere)
    exact Or.inr ⟨List.getElem?_eq_none hle, rfl⟩

/-- An answer is reported next, or has been. -/
theorem reporting_or_settled (flows : Flows h s) {place : Nat} {e : Ending}
    (answered : h.answered[place]? = some e) :
    s.worker = .reporting e.1 e.2 ∨ place < h.settled.length := by
  have hlt := (List.getElem?_eq_some_iff.mp answered).1
  have hthere : (h.settled ++ s.worker.reported)[place]? = some e := by
    rw [flows.settled, List.getElem?_append_left hlt]
    exact answered
  by_cases hsettled : place < h.settled.length
  · exact Or.inr hsettled
  · left
    rw [List.getElem?_append_right (Nat.le_of_not_lt hsettled)] at hthere
    have hmem := List.mem_of_getElem? hthere
    cases hworker : s.worker with
    | reporting order outcome =>
        rw [hworker] at hmem
        obtain rfl := List.mem_singleton.mp hmem
        rfl
    | idle => exact absurd (hworker ▸ hmem) List.not_mem_nil
    | calling order => exact absurd (hworker ▸ hmem) List.not_mem_nil
    | ended => exact absurd (hworker ▸ hmem) List.not_mem_nil

/-- A worker that has ended has reported the end of every order. -/
theorem length_settled (flows : Flows h s) (ended : s.worker = .ended) :
    h.settled.length = h.ordered.length := by
  rw [flows.ordered, ended, (flows.workerEnded ended).2]
  simp

end Flows

/-- What becomes of a call that brings back the route of a topic, being the
`place`-th of all calls that the manager has asked for. -/
structure Restores (h : History) (s : State) (place : Nat) (topic : String) (route : Route) :
    Prop where
  asked : h.ordered[place]? = some (restoringOrder topic route)
  /-- The handler of the route hears of failures as failures on the topic. -/
  heard : ∃ box, s.inboxes[route.inbox]? = some box ∧
    ∀ {α : Type} (format : Format α) (error : TransportError),
      format.receive box.topic (.failure error) = .error (.transport topic error)
  /-- Its end adds one failure to the items of this handler, if it is one, and
  nothing to those of any other. -/
  told : ∀ before e after, h.settled = before ++ e :: after → before.length = place →
    e.1 = restoringOrder topic route ∧
      (h.answered[place]? = some e ∨
        (h.answered[place]? = none ∧ e.2 = .error .connectionClosed)) ∧
      ∀ (n : Nat) (box : Inbox), s.inboxes[n]? = some box →
        warnings (box.delivered ++ box.queue) = State.failuresFor n before ++
          (match e.2 with
            | .error error => if n = route.inbox then [.failure error] else []
            | .ok () => []) ++ State.failuresFor n after
  /-- It ends once its answer has been reported, or when the worker does. -/
  answered : ∀ e, h.answered[place]? = some e →
    s.worker = .reporting e.1 e.2 ∨ place < h.settled.length
  ended : s.worker = .ended → place < h.settled.length
  /-- Neither its answer nor the report of it changes the table, or what the manager
  has to do. -/
  harmless : ∀ (u v : State) (outcome : Outcome),
    (u.worker = .calling (restoringOrder topic route) ∧ u.step? (.answer outcome) = some v) ∨
      (u.worker = .reporting (restoringOrder topic route) outcome ∧ u.step? .settle = some v) →
    v.routes = u.routes ∧ v.commands = u.commands

theorem restores_of_ordered {actions : List Action} {s : State}
    (run : State.initial.run? actions = some s) (returned : (history actions).failed = [])
    {place : Nat} {topic : String} {route : Route}
    (asked : (history actions).ordered[place]? = some (restoringOrder topic route)) :
    Restores (history actions) s place topic route := by
  have flows := flows_of_run run
  refine ⟨asked, ?_, ?_, fun e => flows.reporting_or_settled, ?_, ?_⟩
  · obtain ⟨before, t, r, ack, after, hsplit, hinbox, -, hsame⟩ :=
      restoring_of_run run (List.mem_of_getElem? asked) rfl
    obtain ⟨box, hbox, htopic, -⟩ := supplied_of_run run returned before t r.qos ack after hsplit
    obtain ⟨rfl, -⟩ := TransportCall.subscribe.inj (congrArg Order.call hsame)
    refine ⟨box, hinbox ▸ hbox, fun format error => ?_⟩
    rw [htopic]
    rfl
  · rintro before e after hsettled rfl
    have horder := Option.some.inj ((flows.settled_order hsettled).symm.trans asked)
    refine ⟨horder, flows.settled_outcome hsettled, fun n box hbox => ?_⟩
    have hown := failuresFor_restoringOrder n topic route e.2
    rw [← horder] at hown
    have hsplit : (history actions).settled = before ++ [e] ++ after := by simp [hsettled]
    rw [warnings_append, warned_of_run run returned n box hbox, hsplit, failuresFor_append,
      failuresFor_append, ← hown]
  · intro hended
    rw [flows.length_settled hended]
    exact (List.getElem?_eq_some_iff.mp asked).1
  · rintro u v outcome (⟨hcalling, hanswer⟩ | ⟨-, hsettle⟩)
    · cases State.step?_eq_some_iff.mp hanswer with
      | answer hcalling' =>
          obtain rfl := Worker.calling.inj (hcalling.symm.trans hcalling')
          refine ⟨rfl, ?_⟩
          simp [State.refusal?, restoringOrder]
    · cases State.step?_eq_some_iff.mp hsettle with
      | settle hreporting => exact ⟨rfl, rfl⟩

/-- Bringing the routes back asks for one subscribe call on each topic in the
table, with the quality of service of the subscription that has the route, and
changes nothing else.  However long a call takes and whatever has become of the
route, its failure is told once to the handler of that subscription and to nobody
else, and success is not told at all.  No such failure takes a route away: the
reports that do are about the first calls of subscriptions.  If the broker has
kept the session, nothing happens. -/
theorem routes_brought_back {early late : List Action} {s t u : State} {rest : List Command}
    (run : State.initial.run? early = some s) (front : s.commands = .resubscribe :: rest)
    (performed : s.step? .handle = some t) (later : t.run? late = some u)
    (returned : (history (early ++ .handle :: late)).failed = []) :
    t = { s with
      commands := rest
      orders := s.orders ++ s.routes.map fun e => restoringOrder e.1 e.2 } ∧
    s.routes.OnePerTopic ∧
    (∀ topic route, (topic, route) ∈ s.routes → ∃ before ack after,
      (history early).handled = before ++ .subscribe topic route.qos ack :: after ∧
        route.inbox = subscriptions before) ∧
    (∀ (k : Nat) topic route, s.routes[k]? = some (topic, route) →
      Restores (history (early ++ .handle :: late)) u ((history early).ordered.length + k)
        topic route) ∧
    (∀ topic id, .subscribeFailed topic id ∈ (history (early ++ .handle :: late)).entered →
      ∃ before qos ack after error, (history (early ++ .handle :: late)).handled =
          before ++ .subscribe topic qos ack :: after ∧
        id = subscriptionId (subscriptions before) ∧
        (firstOrder topic qos ack (subscriptions before), .error error) ∈
          (history (early ++ .handle :: late)).answered) ∧
    ∀ v, Client.sessionRestored v true = .ok v := by
  have reg := registered_of_run run
  have hstep := State.step?_eq_some_iff.mp performed
  have hreached : State.initial.run? (early ++ [.handle]) = some t :=
    State.run?_concat.mpr ⟨s, run, hstep⟩
  have hall : early ++ .handle :: late = (early ++ [.handle]) ++ late := by simp
  have hwhole : State.initial.run? (early ++ .handle :: late) = some u := by
    rw [hall, State.run?_append, hreached]
    exact later
  have hordered : (history (early ++ [.handle])).ordered =
      (history early).ordered ++ s.routes.map fun e => restoringOrder e.1 e.2 := by
    rw [history_concat run hstep]
    simp only [History.extend, front]
    rfl
  refine ⟨?_, reg.onePerTopic, ?_, ?_, ?_, fun v => rfl⟩
  · cases hstep with
    | handle hactive hfront =>
        obtain ⟨rfl, rfl⟩ := List.cons.inj (front.symm.trans hfront)
        rfl
  · intro topic route hlisted
    obtain ⟨before, ack, after, hsplit, hinbox, -, -⟩ :=
      reg.held topic route (reg.onePerTopic.get?_eq_some_iff.mpr hlisted)
    exact ⟨before, ack, after, hsplit, hinbox⟩
  · intro k topic route hlisted
    refine restores_of_ordered hwhole returned ?_
    obtain ⟨more, hmore⟩ := (made_run hreached later).1
    have hplace : (s.routes.map fun e => restoringOrder e.1 e.2)[k]? =
        some (restoringOrder topic route) := by
      rw [List.getElem?_map, hlisted]
      rfl
    have hlt := (List.getElem?_eq_some_iff.mp hplace).1
    rw [hall, ← hmore, hordered, List.append_assoc, List.getElem?_append_right (by omega),
      Nat.add_sub_cancel_left, List.getElem?_append_left hlt, hplace]
  · intro topic id hreported
    exact refused_of_report (flows_of_run hwhole) (numbered_of_run hwhole)
      (announced_of_run hwhole) hreported

/-- The connection is lost while a topic has a handler; the handler is replaced
before the transport refuses to bring its route back, and that route's successor
is subscribed at last. -/
def replacedWhileLost : List Action :=
  [.submit (.subscribe "a" .atLeastOnce), .handle, .start, .answer (.ok ()), .settle,
    .submit .resubscribe, .submit (.subscribe "a" .atMostOnce)]

def refusedAfterReplacement : List Action :=
  [.handle, .start, .answer (.error (.rejected "no")), .settle, .start, .answer (.ok ()), .settle,
    .deliver 0 false]

def afterReplacedWhileLost : State := (State.initial.run? replacedWhileLost).getD .initial

def afterLossHandled : State := (afterReplacedWhileLost.step? .handle).getD .initial

def afterRefusedAfterReplacement : State :=
  (afterLossHandled.run? refusedAfterReplacement).getD .initial

theorem first_handler_told_of_refusal :
    State.initial.run? replacedWhileLost = some afterReplacedWhileLost ∧
      afterReplacedWhileLost.step? .handle = some afterLossHandled ∧
      afterLossHandled.run? refusedAfterReplacement = some afterRefusedAfterReplacement ∧
      afterRefusedAfterReplacement.routes = [("a", ⟨1, .atMostOnce, 1⟩)] ∧
      (∃ box, afterRefusedAfterReplacement.inboxes[0]? = some box ∧
        warnings (box.delivered ++ box.queue) = [.failure (.rejected "no")]) ∧
      ∃ box, afterRefusedAfterReplacement.inboxes[1]? = some box ∧
        warnings (box.delivered ++ box.queue) = [] := by
  have hrun : State.initial.run? replacedWhileLost = some afterReplacedWhileLost := by decide
  have hfront : afterReplacedWhileLost.commands = [.resubscribe, .subscribe "a" .atMostOnce 1] := by
    decide
  have hperformed : afterReplacedWhileLost.step? .handle = some afterLossHandled := by decide
  have hlater : afterLossHandled.run? refusedAfterReplacement =
      some afterRefusedAfterReplacement := by decide
  have hreturned : (history (replacedWhileLost ++ .handle :: refusedAfterReplacement)).failed =
      [] := by decide
  obtain ⟨-, -, -, hrestores, -, -⟩ :=
    routes_brought_back hrun hfront hperformed hlater hreturned
  have hsettled : (history (replacedWhileLost ++ .handle :: refusedAfterReplacement)).settled =
      [(firstOrder "a" .atLeastOnce 0 0, .ok ())] ++
        (restoringOrder "a" ⟨0, .atLeastOnce, 0⟩, .error (.rejected "no")) ::
          [(firstOrder "a" .atMostOnce 1 1, .ok ())] := by decide
  have htold := ((hrestores 0 "a" ⟨0, .atLeastOnce, 0⟩ (by decide)).told _ _ _ hsettled
    (by decide)).2.2
  exact ⟨hrun, hperformed, hlater, by decide, ⟨_, rfl, htold 0 _ rfl⟩, ⟨_, rfl, htold 1 _ rfl⟩⟩

end DeviceLink.Session
