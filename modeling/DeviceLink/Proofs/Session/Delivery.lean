import DeviceLink.Proofs.Session.Subscription

/-!
# What a handler is called with

A subscription is owed the payloads that arrive on its topic while it holds the
topic's route, and the commands that the manager has performed say which these
are (`routed`).  At any time they are the payloads that its handler has been
called with, followed by those that wait in its inbox (`Supplied`): nothing is
lost, repeated, reordered or given to another subscription.
-/

namespace DeviceLink.Session

def Item.payload? : Item → Option ByteArray
  | message payload => some payload
  | failure _ => none

def payloads (items : List Item) : List ByteArray := items.filterMap Item.payload?

def Command.payloadOn? (topic : String) : Command → Option ByteArray
  | dispatch t payload => if t = topic then some payload else none
  | _ => none

/-- The payloads that some commands bring for a topic before the first of them
ends the route with the given id. -/
def routed (topic : String) (id : UInt64) (commands : List Command) : List ByteArray :=
  (commands.takeWhile fun c => !c.endsRoute topic id).filterMap (·.payloadOn? topic)

/-- Someone can still put items into an inbox: it has a route, or an order was
made for it. -/
def State.hasSender (s : State) (inbox : Nat) : Prop :=
  (∃ e ∈ s.routes, e.2.inbox = inbox) ∨
    ∃ order ∈ s.worker.held ++ s.orders, order.observer = .subscription inbox

/-- The delivery task of an inbox has finished: the inbox is empty, and nobody
can put anything into it any more. -/
def State.hasFinished (s : State) (inbox : Nat) : Prop :=
  s.inboxes[inbox]?.map Inbox.queue = some [] ∧ ¬ s.hasSender inbox

instance (s : State) (inbox : Nat) : Decidable (s.hasSender inbox) :=
  inferInstanceAs (Decidable (_ ∨ _))

instance (s : State) (inbox : Nat) : Decidable (s.hasFinished inbox) :=
  inferInstanceAs (Decidable (_ ∧ _))

@[simp] theorem payloads_append (items more : List Item) :
    payloads (items ++ more) = payloads items ++ payloads more :=
  List.filterMap_append

@[simp] theorem payloads_failuresFor (inbox : Nat) (endings : List Ending) :
    payloads (State.failuresFor inbox endings) = [] := by
  unfold payloads
  rw [List.filterMap_eq_nil_iff]
  intro item hitem
  obtain ⟨e, -, he⟩ := List.mem_filterMap.mp hitem
  split at he
  · obtain ⟨-, hfailure⟩ := Option.ite_none_right_eq_some.mp he
    exact Option.some.inj hfailure ▸ rfl
  · exact absurd he (by simp)

theorem routed_concat (topic : String) (id : UInt64) (commands : List Command) (c : Command) :
    routed topic id (commands ++ [c]) = routed topic id commands ++
      if ∀ d ∈ commands, d.endsRoute topic id = false then (c.payloadOn? topic).toList else [] := by
  induction commands with
  | nil =>
      cases c with
      | dispatch t payload =>
          by_cases ht : t = topic <;> simp [routed, Command.endsRoute, Command.payloadOn?, ht]
      | _ => simp [routed, List.takeWhile_cons, Command.payloadOn?]
  | cons d rest ih =>
      unfold routed at ih ⊢
      cases hd : d.endsRoute topic id with
      | true => simp [hd]
      | false =>
          rw [List.cons_append, List.takeWhile_cons_of_pos (by simp [hd]),
            List.takeWhile_cons_of_pos (by simp [hd]), List.filterMap_cons, List.filterMap_cons, ih]
          cases d.payloadOn? topic <;> simp [hd]

/-- Every inbox has been supplied with what its subscription is owed. -/
def Supplied (h : History) (s : State) : Prop :=
  h.failed = [] → ∀ before topic qos ack after,
    h.handled = before ++ .subscribe topic qos ack :: after →
    ∃ box, s.inboxes[subscriptions before]? = some box ∧ box.topic = topic ∧
      payloads box.delivered ++ payloads box.queue =
        routed topic (subscriptionId (subscriptions before)) after

namespace Supplied

variable {h : History} {s t : State} {a : Action}

theorem initial : Supplied {} .initial :=
  fun _ _ _ _ _ _ hsplit => absurd hsplit (by simp)

/-- A command supplies the subscription that holds the topic's route. -/
theorem payloads_itemsFor (reg : Registered h s) (returned : h.failed = [])
    (active : s.phase ≠ .ended) {before after : List Command} {topic : String} {qos : QoS}
    {ack : Nat} (made : h.handled = before ++ .subscribe topic qos ack :: after)
    (command : Command) : payloads (s.itemsFor (subscriptions before) command) =
      if ∀ d ∈ after, d.endsRoute topic (subscriptionId (subscriptions before)) = false then
        (command.payloadOn? topic).toList
      else [] := by
  cases command with
  | dispatch t payload =>
      by_cases hholds : ∀ d ∈ after,
          d.endsRoute topic (subscriptionId (subscriptions before)) = false
      · have hroute := reg.listed returned active topic
          ⟨subscriptionId (subscriptions before), qos, subscriptions before⟩
          ⟨before, ack, after, made, rfl, rfl, hholds⟩
        rw [if_pos hholds]
        -- The table lists the route, so the message goes to its inbox or to another topic's.
        by_cases ht : t = topic
        · subst ht
          simp [State.itemsFor, hroute, Command.payloadOn?, payloads, Item.payload?]
        · have hother : ¬ (s.routes.get? t).any
              (fun route => route.inbox = subscriptions before) = true := by
            intro hany
            obtain ⟨route, hfound, hinbox⟩ := Option.any_eq_true _ _ |>.mp hany
            have hheld := reg.held t route hfound
            rw [made] at hheld
            exact ht (hheld.of_split (of_decide_eq_true hinbox)).1
          simp [State.itemsFor, hother, Command.payloadOn?, ht, payloads]
      · -- A route that is not held any more is not in the table either.
        have hlost : ¬ (s.routes.get? t).any
            (fun route => route.inbox = subscriptions before) = true := by
          intro hany
          obtain ⟨route, hfound, hinbox⟩ := Option.any_eq_true _ _ |>.mp hany
          have hheld := reg.held t route hfound
          rw [made] at hheld
          exact hholds (hheld.of_split (of_decide_eq_true hinbox)).2.2
        rw [if_neg hholds]
        simp [State.itemsFor, hlost, payloads]
  | _ => simp [State.itemsFor, Command.payloadOn?, payloads]

theorem handle (reg : Registered h s) (supplied : Supplied h s) {command : Command}
    {rest : List Command} (active : s.phase ≠ .ended) (front : s.commands = command :: rest) :
    Supplied (h.extend s .handle) { s with
      commands := rest
      routes := s.routesAfter command
      inboxes := s.inboxesAfter command
      orders := s.orders ++ s.ordersFor command
      nextId := s.nextIdAfter command } := by
  simp only [History.extend, front]
  intro returned before topic qos ack after hsplit
  rcases concat_eq_split hsplit with ⟨rfl, rfl, rfl⟩ | ⟨after, rfl, hmade⟩
  · refine ⟨{ topic }, ?_, rfl, rfl⟩
    simp [State.inboxesAfter, ← reg.inboxes]
  · obtain ⟨box, hbox, htopic, hsupply⟩ := supplied returned before topic qos ack after hmade
    have hold := (List.getElem?_eq_some_iff.mp hbox).1
    have hlive := reg.live returned _ box hbox
    refine ⟨box.put (s.itemsFor (subscriptions before) command), ?_, ?_, ?_⟩
    · rw [State.getElem?_inboxesAfter command hold, hbox]
      rfl
    · rw [Inbox.put_topic, htopic]
    · rw [Inbox.put_delivered, Inbox.put_queue hlive, payloads_append, ← List.append_assoc,
        hsupply, routed_concat, payloads_itemsFor reg returned active hmade]

/-- Failures that a handler learns of are no messages. -/
theorem toldInboxes (reg : Registered h s) (supplied : Supplied h s) (endings : List Ending)
    {told : History} {u : State} (handled : told.handled = h.handled)
    (failed : told.failed = h.failed) (inboxes : u.inboxes = State.toldInboxes s.inboxes endings) :
    Supplied told u := by
  intro returned before topic qos ack after hsplit
  rw [failed] at returned
  rw [handled] at hsplit
  obtain ⟨box, hbox, htopic, hsupply⟩ := supplied returned before topic qos ack after hsplit
  have hlive := reg.live returned _ box hbox
  refine ⟨box.put (State.failuresFor (subscriptions before) endings), ?_, ?_, ?_⟩
  · rw [inboxes, State.getElem?_toldInboxes, hbox]
    rfl
  · rw [Inbox.put_topic, htopic]
  · rw [Inbox.put_delivered, Inbox.put_queue hlive, payloads_append, payloads_failuresFor,
      List.append_nil, hsupply]

theorem deliver (supplied : Supplied h s) {inbox : Nat} {box : Inbox} {item : Item}
    {rest : List Item} (found : s.inboxes[inbox]? = some box) (front : box.queue = item :: rest) :
    Supplied h { s with
      inboxes := s.inboxes.set inbox { box with
        delivered := box.delivered ++ [item]
        queue := rest
        live := true } } := by
  intro returned before topic qos ack after hsplit
  obtain ⟨old, hold, htopic, hsupply⟩ := supplied returned before topic qos ack after hsplit
  by_cases hn : inbox = subscriptions before
  · subst hn
    obtain rfl := Option.some.inj (found.symm.trans hold)
    refine ⟨_, List.getElem?_set_self (List.getElem?_eq_some_iff.mp found).1, htopic, ?_⟩
    rw [← hsupply, front, payloads_append, List.append_assoc, ← payloads_append]
    rfl
  · exact ⟨old, by rw [List.getElem?_set_ne hn, hold], htopic, hsupply⟩

theorem step (reg : Registered h s) (supplied : Supplied h s) (step : Step s a t) :
    Supplied (h.extend s a) t := by
  cases step with
  | handle hactive hfront => exact supplied.handle reg hactive hfront
  | settle hreporting =>
      simp only [History.extend, hreporting]
      exact supplied.toldInboxes reg _ rfl rfl rfl
  | abort hended hwaiting => exact supplied.toldInboxes reg _ rfl rfl rfl
  | @deliver inbox box item rest fails hfound hfront hlive =>
      cases fails with
      | true => exact fun returned => absurd returned (by simp [History.extend])
      | false => exact supplied.deliver hfound hfront
  | start hidle hfront =>
      simp only [History.extend, hfront]
      exact supplied
  | answer hcalling =>
      simp only [History.extend, hcalling]
      exact supplied
  | submit hopen => exact supplied
  | requestStop => exact supplied
  | dropCallers => exact supplied
  | close hrunning hstops => exact supplied
  | finish hdraining hhandled => exact supplied
  | reorder hperm => exact supplied
  | endWorker hended hidle hdone => exact supplied

end Supplied

theorem supplied_of_run {actions : List Action} {s : State}
    (run : State.initial.run? actions = some s) : Supplied (history actions) s :=
  history_induction Supplied.initial
    (fun hrun supplied hstep => supplied.step (registered_of_run hrun) hstep) run

/-! ## Finished delivery tasks -/

theorem mem_routesAfter {h : History} {s : State} (reg : Registered h s) {command : Command}
    {topic : String} {route : Route} (listed : (topic, route) ∈ s.routesAfter command) :
    (topic, route) ∈ s.routes ∨ route.inbox = s.inboxes.length := by
  have hone := State.onePerTopic_routesAfter reg.onePerTopic command
  rcases (s.get?_routesAfter command topic route).mp (hone.get?_eq_some_iff.mpr listed) with
    ⟨hold, -, -⟩ | ⟨qos, ack, -, rfl⟩
  · exact Or.inl (Routes.mem_of_get? hold)
  · exact Or.inr rfl

/-- Only bringing a route back makes an order for a subscription. -/
theorem observer_ordersFor {s : State} {command : Command} {order : Order} {inbox : Nat}
    (made : order ∈ s.ordersFor command) (observed : order.observer = .subscription inbox) :
    ∃ e ∈ s.routes, e.2.inbox = inbox := by
  cases State.makes_of_mem made with
  | resubscribe hlisted => exact ⟨_, hlisted, Observer.subscription.inj observed⟩
  | _ => exact absurd observed (by simp)

theorem itemsFor_eq_nil {s : State} {inbox : Nat} (unreached : ¬ s.hasSender inbox)
    (command : Command) : s.itemsFor inbox command = [] := by
  cases command with
  | dispatch topic payload =>
      rw [State.itemsFor, if_neg]
      intro hany
      obtain ⟨route, hfound, hinbox⟩ := Option.any_eq_true _ _ |>.mp hany
      exact unreached (Or.inl ⟨_, Routes.mem_of_get? hfound, of_decide_eq_true hinbox⟩)
  | _ => rfl

theorem failuresFor_eq_nil {inbox : Nat} {endings : List Ending}
    (unobserved : ∀ e ∈ endings, e.1.observer ≠ .subscription inbox) :
    State.failuresFor inbox endings = [] := by
  unfold State.failuresFor
  rw [List.filterMap_eq_nil_iff]
  intro e he
  split
  · rw [if_neg (unobserved e he)]
  · rfl

section Unreached

variable {h : History} {s t : State} {a : Action} {inbox : Nat}

theorem unreached_of_subset (unreached : ¬ s.hasSender inbox) (routes : t.routes ⊆ s.routes)
    (orders : t.worker.held ++ t.orders ⊆ s.worker.held ++ s.orders) : ¬ t.hasSender inbox := by
  rintro (⟨e, he, hinbox⟩ | ⟨order, hmem, hobserver⟩)
  · exact unreached (Or.inl ⟨e, routes he, hinbox⟩)
  · exact unreached (Or.inr ⟨order, orders hmem, hobserver⟩)

/-- A command makes no way to an inbox that exists and that nobody has got hold of. -/
theorem unreached_handle (reg : Registered h s) (old : inbox < s.inboxes.length)
    (unreached : ¬ s.hasSender inbox) (step : Step s .handle t) : ¬ t.hasSender inbox := by
  obtain ⟨hroutes, horders⟩ := not_or.mp unreached
  cases step with
  | @handle command rest hactive hfront =>
      rintro (⟨⟨topic, route⟩, he, hinbox⟩ | ⟨order, hmem, hobserver⟩)
      · -- A route that is new leads to an inbox that is new as well.
        rcases mem_routesAfter reg he with hlisted | hnew
        · exact hroutes ⟨_, hlisted, hinbox⟩
        · exact absurd (hinbox.symm.trans hnew) (Nat.ne_of_lt old)
      · rw [← List.append_assoc] at hmem
        rcases List.mem_append.mp hmem with hmem | hmade
        · exact horders ⟨order, hmem, hobserver⟩
        · exact hroutes (observer_ordersFor hmade hobserver)

theorem unreached_finish (unreached : ¬ s.hasSender inbox) (step : Step s .finish t) :
    ¬ t.hasSender inbox := by
  cases step with
  | finish hdraining hhandled =>
      rintro (⟨e, he, -⟩ | ⟨order, hmem, hobserver⟩)
      · exact absurd he List.not_mem_nil
      · rw [← List.append_assoc] at hmem
        rcases List.mem_append.mp hmem with hmem | hmade
        · exact unreached (Or.inr ⟨order, hmem, hobserver⟩)
        · obtain ⟨e, -, rfl⟩ := List.mem_map.mp hmade
          exact absurd hobserver (by simp)

theorem unreached_step (reg : Registered h s) (old : inbox < s.inboxes.length)
    (unreached : ¬ s.hasSender inbox) (step : Step s a t) : ¬ t.hasSender inbox := by
  cases step with
  | handle hactive hfront => exact unreached_handle reg old unreached (.handle hactive hfront)
  | finish hdraining hhandled => exact unreached_finish unreached (.finish hdraining hhandled)
  | reorder hperm =>
      exact unreached_of_subset unreached hperm.subset (List.Subset.refl _)
  | start hidle hfront =>
      exact unreached_of_subset unreached (List.Subset.refl _) (by simp [hidle, hfront])
  | answer hcalling =>
      exact unreached_of_subset unreached (List.Subset.refl _) (by simp [hcalling])
  | settle hreporting =>
      exact unreached_of_subset unreached (List.Subset.refl _) (List.subset_append_right _ _)
  | endWorker hended hidle hdone =>
      exact unreached_of_subset unreached (List.Subset.refl _) (List.subset_append_right _ _)
  | abort hended hwaiting =>
      exact unreached_of_subset unreached (List.Subset.refl _) (List.nil_subset _)
  | _ => exact unreached

/-- How orders end that were not made for an inbox does not reach it. -/
theorem unreached_told (unreached : ¬ s.hasSender inbox) {endings : List Ending}
    (made : ∀ e ∈ endings, e.1 ∈ s.worker.held ++ s.orders) :
    (State.toldInboxes s.inboxes endings)[inbox]? = s.inboxes[inbox]? := by
  rw [State.getElem?_toldInboxes, failuresFor_eq_nil]
  · simp
  · exact fun e he hobserver => unreached (Or.inr ⟨e.1, made e he, hobserver⟩)

/-- A finished inbox stays as it is: nothing is put into it, and it is empty. -/
theorem inbox_step (old : inbox < s.inboxes.length) (finished : s.hasFinished inbox)
    (step : Step s a t) : t.inboxes[inbox]? = s.inboxes[inbox]? := by
  obtain ⟨hqueue, hunreached⟩ := finished
  cases step with
  | @handle command rest hactive hfront =>
      show (s.inboxesAfter command)[inbox]? = _
      rw [State.getElem?_inboxesAfter command old, itemsFor_eq_nil hunreached]
      simp
  | settle hreporting =>
      refine unreached_told hunreached fun e he => ?_
      obtain rfl := List.mem_singleton.mp he
      simp [hreporting]
  | abort hended hwaiting =>
      refine unreached_told hunreached fun e he => ?_
      obtain ⟨order, hmem, rfl⟩ := List.mem_map.mp he
      exact hmem
  | @deliver other box item rest fails hfound hfront hlive =>
      -- A finished inbox is empty, so the handler that is called is another one.
      have hne : other ≠ inbox := by
        rintro rfl
        simp [hfound, hfront] at hqueue
      exact List.getElem?_set_ne hne
  | _ => rfl

theorem finished_step (reg : Registered h s) (finished : s.hasFinished inbox)
    (step : Step s a t) : t.hasFinished inbox ∧ t.inboxes[inbox]? = s.inboxes[inbox]? := by
  obtain ⟨box, hbox, -⟩ := Option.map_eq_some_iff.mp finished.1
  have hold := (List.getElem?_eq_some_iff.mp hbox).1
  have hsame := inbox_step hold finished step
  exact ⟨⟨hsame.symm ▸ finished.1, unreached_step reg hold finished.2 step⟩, hsame⟩

end Unreached

/-- A finished delivery task stays finished, and its handler is never called
again. -/
theorem finished_run {actions more : List Action} {s t : State} {inbox : Nat}
    (run : State.initial.run? actions = some s) (finished : s.hasFinished inbox)
    (later : s.run? more = some t) :
    t.hasFinished inbox ∧ t.inboxes[inbox]? = s.inboxes[inbox]? := by
  refine @State.run_induction _ _
    (fun _ t => t.hasFinished inbox ∧ t.inboxes[inbox]? = s.inboxes[inbox]?)
    ⟨finished, rfl⟩ ?_ _ later
  intro more a u t hmore hkept hstep
  have hwhole : State.initial.run? (actions ++ more) = some u := by
    rw [State.run?_append, run]
    exact hmore
  obtain ⟨hfinished, hsame⟩ := finished_step (registered_of_run hwhole) hkept.1 hstep
  exact ⟨hfinished, hsame.trans hkept.2⟩

/-- A handler is called with the payloads that were routed to its subscription,
in order and each once, and with all of them by the time its delivery task has
finished.  After that it is not called again. -/
theorem handler_called_with_routed {actions : List Action} {s : State}
    (run : State.initial.run? actions = some s) (returned : (history actions).failed = [])
    {before after : List Command} {topic : String} {qos : QoS} {ack : Nat}
    (made : (history actions).handled = before ++ .subscribe topic qos ack :: after) :
    ∃ box, s.inboxes[subscriptions before]? = some box ∧ box.topic = topic ∧
      payloads box.delivered <+:
        routed topic (subscriptionId (subscriptions before)) after ∧
      (s.hasFinished (subscriptions before) →
        payloads box.delivered = routed topic (subscriptionId (subscriptions before)) after ∧
        ∀ more t, s.run? more = some t → t.inboxes[subscriptions before]? = some box) := by
  obtain ⟨box, hbox, htopic, hsupply⟩ :=
    supplied_of_run run returned before topic qos ack after made
  refine ⟨box, hbox, htopic, ⟨payloads box.queue, hsupply⟩, ?_⟩
  intro hfinished
  have hempty : box.queue = [] := by simpa [hbox] using hfinished.1
  refine ⟨?_, fun more t hmore => (finished_run run hfinished hmore).2.trans hbox⟩
  rw [← hsupply, hempty]
  exact (List.append_nil _).symm

/-- A subscription replaces another one on its topic, gets one message, and is
refused; one message comes too early for it and one too late. -/
def refusedReplacement : List Action :=
  [.submit (.subscribe "a" .atLeastOnce), .submit (.dispatch "a" ⟨#[1]⟩),
    .submit (.subscribe "a" .atMostOnce), .submit (.dispatch "a" ⟨#[2]⟩),
    .handle, .handle, .handle, .start, .handle, .answer (.ok ()), .settle, .start,
    .answer (.error (.rejected "full")), .submit (.dispatch "a" ⟨#[3]⟩), .settle, .handle,
    .handle, .deliver 1 false, .deliver 0 false]

def afterRefusedReplacement : State := (State.initial.run? refusedReplacement).getD .initial

theorem replacement_called_with_its_message :
    State.initial.run? refusedReplacement = some afterRefusedReplacement ∧
      (history refusedReplacement).failed = [] ∧ afterRefusedReplacement.hasFinished 1 ∧
      ∃ box, afterRefusedReplacement.inboxes[1]? = some box ∧
        payloads box.delivered = [⟨#[2]⟩] ∧
        ∀ more t, afterRefusedReplacement.run? more = some t → t.inboxes[1]? = some box := by
  have hrun : State.initial.run? refusedReplacement = some afterRefusedReplacement := by decide
  have hreturned : (history refusedReplacement).failed = [] := by decide
  have hfinished : afterRefusedReplacement.hasFinished 1 := by decide
  have hmade : (history refusedReplacement).handled =
      [.subscribe "a" .atLeastOnce 0, .dispatch "a" ⟨#[1]⟩] ++ .subscribe "a" .atMostOnce 1 ::
        [.dispatch "a" ⟨#[2]⟩, .subscribeFailed "a" 1, .dispatch "a" ⟨#[3]⟩] := by decide
  obtain ⟨box, hbox, -, -, hall⟩ := handler_called_with_routed hrun hreturned hmade
  exact ⟨hrun, hreturned, hfinished, box, hbox, hall hfinished⟩

end DeviceLink.Session
