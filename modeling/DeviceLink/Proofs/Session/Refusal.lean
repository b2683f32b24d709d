import DeviceLink.Proofs.Session.Acknowledgement
import DeviceLink.Proofs.Session.Subscription

/-!
# Refused subscriptions

The first subscribe call of a subscription carries the subscription's id
(`Numbered`).  If the transport refuses that call, the manager is told the id
before the caller learns of it (`Announced`), and takes the route away only if it
is still this subscription's.  Ids are numbers of 64 bits, so all of this is
about sessions with fewer than `UInt64.size` subscriptions.
-/

namespace DeviceLink.Session

def firstOrder (topic : String) (qos : QoS) (ack n : Nat) : Order :=
  ⟨.subscribe topic qos, .caller ack, some (subscriptionId n)⟩

theorem subscriptionId_inj {m n : Nat} (hm : m < UInt64.size) (hn : n < UInt64.size)
    (same : subscriptionId m = subscriptionId n) : m = n := by
  have h := congrArg UInt64.toNat same
  rwa [subscriptionId, subscriptionId, UInt64.toNat_ofNat_of_lt' hm,
    UInt64.toNat_ofNat_of_lt' hn] at h

/-! ## First subscribe calls -/

/-- The orders with an id are the first subscribe calls of the subscriptions, in
the order in which these were made. -/
structure Numbered (h : History) : Prop where
  ids : h.ordered.filterMap Order.route =
    (List.range (subscriptions h.handled)).map subscriptionId
  ordered : ∀ before topic qos ack after, h.handled = before ++ .subscribe topic qos ack :: after →
    firstOrder topic qos ack (subscriptions before) ∈ h.ordered
  made : ∀ order ∈ h.ordered, ∀ id, order.route = some id → ∃ before topic qos ack after,
    h.handled = before ++ .subscribe topic qos ack :: after ∧
      order = firstOrder topic qos ack (subscriptions before)

theorem mem_ordersFor_route {s : State} {command : Command} {order : Order} {id : UInt64}
    (made : order ∈ s.ordersFor command) (first : order.route = some id) :
    ∃ topic qos ack, command = .subscribe topic qos ack ∧
      order = ⟨.subscribe topic qos, .caller ack, some s.nextId⟩ := by
  cases State.makes_of_mem made with
  | subscribe => exact ⟨_, _, _, rfl, rfl⟩
  | _ => exact absurd first (by simp)

theorem filterMap_route_ordersFor (s : State) (command : Command) :
    (s.ordersFor command).filterMap Order.route =
      if command.isSubscribe then [s.nextId] else [] := by
  cases hsubscribe : command.isSubscribe with
  | true =>
      cases command with
      | subscribe topic qos ack => rfl
      | _ => exact absurd hsubscribe (by simp [Command.isSubscribe])
  | false =>
      refine List.filterMap_eq_nil_iff.mpr fun order hmade => ?_
      rw [Option.eq_none_iff_forall_ne_some]
      intro id hfirst
      obtain ⟨topic, qos, ack, rfl, -⟩ := mem_ordersFor_route hmade hfirst
      exact absurd hsubscribe (by simp [Command.isSubscribe])

theorem route_releaseOrders {routes : Routes} {order : Order}
    (made : order ∈ State.releaseOrders routes) : order.route = none := by
  obtain ⟨e, -, rfl⟩ := List.mem_map.mp made
  rfl

namespace Numbered

variable {h : History} {s t : State} {a : Action}

theorem initial : Numbered {} where
  ids := rfl
  ordered := fun _ _ _ _ _ hsplit => absurd hsplit (by simp)
  made := fun _ hmem => absurd hmem List.not_mem_nil

theorem handle (reg : Registered h s) (numbered : Numbered h) {command : Command}
    {rest : List Command} (front : s.commands = command :: rest) :
    Numbered (h.extend s .handle) := by
  simp only [History.extend, front]
  refine ⟨?_, ?_, ?_⟩
  · rw [List.filterMap_append, numbered.ids, filterMap_route_ordersFor, subscriptions_concat]
    cases command.isSubscribe with
    | true => simp [List.range_succ, reg.nextId]
    | false => simp
  · intro before topic qos ack after hsplit
    rw [List.mem_append]
    rcases concat_eq_split hsplit with ⟨rfl, rfl, rfl⟩ | ⟨after, rfl, hold⟩
    · right
      rw [State.ordersFor, List.mem_singleton, firstOrder, reg.nextId]
    · left
      exact numbered.ordered before topic qos ack after hold
  · intro order hmem id hfirst
    rcases List.mem_append.mp hmem with hold | hmade
    · obtain ⟨before, topic, qos, ack, after, hsplit, horder⟩ := numbered.made order hold id hfirst
      exact ⟨before, topic, qos, ack, after ++ [command], by simp [hsplit], horder⟩
    · obtain ⟨topic, qos, ack, rfl, rfl⟩ := mem_ordersFor_route hmade hfirst
      exact ⟨h.handled, topic, qos, ack, [], rfl, by rw [firstOrder, reg.nextId]⟩

theorem finish (numbered : Numbered h) (routes : Routes) :
    Numbered { h with ordered := h.ordered ++ State.releaseOrders routes } := by
  refine ⟨?_, ?_, ?_⟩
  · have hnone : (State.releaseOrders routes).filterMap Order.route = [] :=
      List.filterMap_eq_nil_iff.mpr fun order hmade => route_releaseOrders hmade
    rw [List.filterMap_append, hnone, List.append_nil]
    exact numbered.ids
  · intro before topic qos ack after hsplit
    exact List.mem_append_left _ (numbered.ordered before topic qos ack after hsplit)
  · intro order hmem id hfirst
    rcases List.mem_append.mp hmem with hold | hmade
    · exact numbered.made order hold id hfirst
    · exact absurd ((route_releaseOrders hmade).symm.trans hfirst) (by simp)

theorem step (reg : Registered h s) (numbered : Numbered h) (step : Step s a t) :
    Numbered (h.extend s a) := by
  rcases manager_step h step with
    ⟨command, rest, -, hfront, rfl, -⟩ | ⟨-, rfl, -⟩ | ⟨hhandled, hordered, -⟩
  · exact numbered.handle reg hfront
  · exact numbered.finish s.routes
  · obtain ⟨hids, hmakes, hmade⟩ := numbered
    rw [← hhandled, ← hordered] at hids
    simp only [← hhandled, ← hordered] at hmakes hmade
    exact ⟨hids, hmakes, hmade⟩

/-- No two first subscribe calls have the same id. -/
theorem nodup (numbered : Numbered h) (few : subscriptions h.handled < UInt64.size) :
    (h.ordered.filterMap Order.route).Nodup := by
  rw [numbered.ids, List.nodup_map_iff_inj_on List.nodup_range]
  intro m hm n hn hsame
  have hmlt := (List.mem_range.mp hm).trans few
  have hnlt := (List.mem_range.mp hn).trans few
  exact subscriptionId_inj hmlt hnlt hsame

end Numbered

theorem numbered_of_run {actions : List Action} {s : State}
    (run : State.initial.run? actions = some s) : Numbered (history actions) :=
  @history_induction (fun h _ => Numbered h) Numbered.initial
    (fun hrun numbered hstep => numbered.step (registered_of_run hrun) hstep) _ _ run

/-! ## Failure reports -/

def Command.isFailure : Command → Bool
  | subscribeFailed .. => true
  | _ => false

def failures (commands : List Command) : List Command := commands.filter Command.isFailure

/-- The failure reports that are due once some calls have ended. -/
def refusals (endings : List Ending) : List Command :=
  endings.filterMap fun e => State.refusal? e.1 e.2

theorem failures_append (commands more : List Command) :
    failures (commands ++ more) = failures commands ++ failures more :=
  List.filter_append ..

theorem failures_submission (what : Submission) (ack : Nat) : failures [what.command ack] = [] := by
  cases what <;> rfl

theorem refusal?_eq_some_iff {order : Order} {outcome : Outcome} {command : Command} :
    State.refusal? order outcome = some command ↔ ∃ id error, order.route = some id ∧
      outcome = .error error ∧ command = .subscribeFailed order.call.topic id := by
  obtain ⟨call, observer, route⟩ := order
  cases route with
  | none => simp [State.refusal?]
  | some id =>
      cases outcome with
      | ok u => simp [State.refusal?]
      | error error => simp [State.refusal?, eq_comm]

theorem failures_refusal? (order : Order) (outcome : Outcome) :
    failures (State.refusal? order outcome).toList = (State.refusal? order outcome).toList := by
  cases hrefusal : State.refusal? order outcome with
  | none => rfl
  | some command =>
      obtain ⟨id, error, -, -, rfl⟩ := refusal?_eq_some_iff.mp hrefusal
      rfl

theorem refusals_concat (endings : List Ending) (order : Order) (outcome : Outcome) :
    refusals (endings ++ [(order, outcome)]) =
      refusals endings ++ (State.refusal? order outcome).toList := by
  rw [refusals, List.filterMap_append]
  cases hrefusal : State.refusal? order outcome <;> simp [refusals, hrefusal]

/-- A queue that takes callers' commands has taken them in every earlier state. -/
theorem isOpen_of_step {s t : State} {a : Action} (step : Step s a t) (isOpen : t.isOpen = true) :
    s.isOpen = true := by
  cases step with
  | dropCallers => simp [State.isOpen] at isOpen
  | close hrunning hstops => simp [State.isOpen] at isOpen
  | finish hdraining hhandled => simp [State.isOpen] at isOpen
  | submit hopen => exact hopen
  | requestStop => exact isOpen
  | handle hactive hfront => exact isOpen
  | reorder hperm => exact isOpen
  | start hidle hfront => exact isOpen
  | answer hcalling => exact isOpen
  | settle hreporting => exact isOpen
  | endWorker hended hidle hdone => exact isOpen
  | abort hended hwaiting => exact isOpen
  | deliver hfound hfront hlive => exact isOpen

/-- The manager is told of every refusal as long as its queue is open, in the
order of the calls, and after the command that made the subscription. -/
structure Announced (h : History) (s : State) : Prop where
  sent : failures h.entered <+: refusals h.answered
  complete : s.isOpen = true → failures h.entered = refusals h.answered
  caused : ∀ before topic id after, h.entered = before ++ .subscribeFailed topic id :: after →
    ∃ earlier qos ack between, before = earlier ++ .subscribe topic qos ack :: between ∧
      id = subscriptionId (subscriptions earlier)

namespace Announced

variable {h : History} {s t : State} {a : Action}

theorem initial : Announced {} .initial where
  sent := List.prefix_refl _
  complete := fun _ => rfl
  caused := fun _ _ _ _ hsplit => absurd hsplit (by simp)

/-- A step that puts nothing into the queue and returns no call. -/
theorem frame (announced : Announced h s) {next : History} (entered : next.entered = h.entered)
    (answered : next.answered = h.answered) (step : Step s a t) : Announced next t := by
  obtain ⟨hsent, hcomplete, hcaused⟩ := announced
  rw [← entered, ← answered] at hsent hcomplete
  rw [← entered] at hcaused
  exact ⟨hsent, fun hopen => hcomplete (isOpen_of_step step hopen), hcaused⟩

theorem submit (announced : Announced h s) (what : Submission) :
    Announced { h with entered := h.entered ++ [what.command s.acks.length] } { s with
      commands := s.commands ++ [what.command s.acks.length]
      acks := if what.isRequest then s.acks ++ [none] else s.acks } := by
  have hsame : failures (h.entered ++ [what.command s.acks.length]) = failures h.entered := by
    rw [failures_append, failures_submission, List.append_nil]
  refine ⟨hsame ▸ announced.sent, fun hopen => hsame ▸ announced.complete hopen, ?_⟩
  intro before topic id after hsplit
  rcases concat_eq_split hsplit with ⟨-, -, hreport⟩ | ⟨after, -, hold⟩
  · cases what <;> exact absurd hreport (by simp [Submission.command])
  · exact announced.caused before topic id after hold

theorem answer (flows : Flows h s) (numbered : Numbered h) (announced : Announced h s)
    {order : Order} {outcome : Outcome} (calling : s.worker = .calling order) :
    Announced (h.extend s (.answer outcome)) { s with
      worker := .reporting order outcome
      commands :=
        if s.isOpen then s.commands ++ (State.refusal? order outcome).toList
        else s.commands } := by
  obtain ⟨hsent, hcomplete, hcaused⟩ := announced
  simp only [History.extend, calling]
  cases hopen : s.isOpen with
  | false =>
      refine ⟨?_, fun hopen' => absurd (hopen.symm.trans hopen') (by simp), hcaused⟩
      rw [refusals_concat]
      exact hsent.trans (List.prefix_append _ _)
  | true =>
      have hboth : failures (h.entered ++ (State.refusal? order outcome).toList) =
          refusals (h.answered ++ [(order, outcome)]) := by
        rw [failures_append, failures_refusal?, refusals_concat, hcomplete hopen]
      refine ⟨hboth ▸ List.prefix_refl _, fun _ => hboth, ?_⟩
      intro before topic id after hsplit
      cases hrefusal : State.refusal? order outcome with
      | none =>
          rw [hrefusal] at hsplit
          exact hcaused before topic id after ((List.append_nil _).symm.trans hsplit)
      | some command =>
          rw [hrefusal] at hsplit
          rcases concat_eq_split hsplit with ⟨-, rfl, rfl⟩ | ⟨after, -, hold⟩
          · obtain ⟨id', error, hfirst, -, hreport⟩ := refusal?_eq_some_iff.mp hrefusal
            obtain ⟨rfl, rfl⟩ := Command.subscribeFailed.inj hreport
            have hordered : order ∈ h.ordered := by
              rw [flows.ordered, calling]
              simp
            obtain ⟨earlier, topic, qos, ack, between, hmade, rfl⟩ :=
              numbered.made order hordered id hfirst
            refine ⟨earlier, qos, ack, between ++ s.commands, ?_, (Option.some.inj hfirst).symm⟩
            rw [flows.entered, hmade]
            simp [firstOrder, TransportCall.topic]
          · exact hcaused before topic id after hold

theorem step (flows : Flows h s) (numbered : Numbered h) (announced : Announced h s)
    (step : Step s a t) : Announced (h.extend s a) t := by
  cases step with
  | submit hopen => exact announced.submit _
  | answer hcalling => exact announced.answer flows numbered hcalling
  | handle hactive hfront =>
      exact announced.frame (by simp [History.extend, hfront]) (by simp [History.extend, hfront])
        (.handle hactive hfront)
  | start hidle hfront =>
      exact announced.frame (by simp [History.extend, hfront]) (by simp [History.extend, hfront])
        (.start hidle hfront)
  | settle hreporting =>
      exact announced.frame (by simp [History.extend, hreporting])
        (by simp [History.extend, hreporting]) (.settle hreporting)
  | @deliver inbox box item rest fails hfound hfront hlive =>
      exact announced.frame (by cases fails <;> rfl) (by cases fails <;> rfl)
        (.deliver hfound hfront hlive)
  | requestStop => exact announced.frame rfl rfl .requestStop
  | dropCallers => exact announced.frame rfl rfl .dropCallers
  | close hrunning hstops => exact announced.frame rfl rfl (.close hrunning hstops)
  | finish hdraining hhandled => exact announced.frame rfl rfl (.finish hdraining hhandled)
  | reorder hperm => exact announced.frame rfl rfl (.reorder hperm)
  | endWorker hended hidle hdone => exact announced.frame rfl rfl (.endWorker hended hidle hdone)
  | abort hended hwaiting => exact announced.frame rfl rfl (.abort hended hwaiting)

end Announced

theorem announced_of_run {actions : List Action} {s : State}
    (run : State.initial.run? actions = some s) : Announced (history actions) s :=
  history_induction Announced.initial
    (fun hrun announced hstep => announced.step (flows_of_run hrun) (numbered_of_run hrun) hstep)
    run

/-! ## Each refusal and its subscription -/

/-- An order is the first subscribe call for a route. -/
def Order.IsFirst (order : Order) (topic : String) (route : Route) : Prop :=
  order.call = .subscribe topic route.qos ∧ order.route = some route.id

section

variable {h : History} {s : State}

/-- A call is returned at most once. -/
theorem answered_unique (flows : Flows h s) (numbered : Numbered h)
    (few : subscriptions h.handled < UInt64.size) {e e' : Ending} {id : UInt64}
    (answered : e ∈ h.answered) (answered' : e' ∈ h.answered) (first : e.1.route = some id)
    (first' : e'.1.route = some id) : e = e' := by
  have hdistinct := ((flows.answered_prefix.sublist.filterMap Order.route)).nodup
    (numbered.nodup few)
  rw [List.filterMap_map] at hdistinct
  exact eq_of_nodup_filterMap hdistinct answered answered' first first'

/-- No refusal is reported twice. -/
theorem nodup_failures (flows : Flows h s) (numbered : Numbered h) (announced : Announced h s)
    (few : subscriptions h.handled < UInt64.size) : (failures h.entered).Nodup := by
  refine announced.sent.sublist.nodup ?_
  have hdistinct := ((flows.answered_prefix.sublist.filterMap Order.route)).nodup
    (numbered.nodup few)
  rw [List.filterMap_map] at hdistinct
  -- Two equal reports would carry the id of one first subscribe call.
  rw [refusals, List.Nodup, List.pairwise_filterMap]
  refine (List.pairwise_filterMap.mp hdistinct).imp fun {e e'} hroutes c hc c' hc' => ?_
  obtain ⟨id, error, hfirst, -, rfl⟩ := refusal?_eq_some_iff.mp hc
  obtain ⟨id', error', hfirst', -, rfl⟩ := refusal?_eq_some_iff.mp hc'
  intro hsame
  exact hroutes id hfirst id' hfirst' (Command.subscribeFailed.inj hsame).2

/-- Behind every failure report stands the refused first call of a subscription
that has been made. -/
theorem refused_of_report (flows : Flows h s) (numbered : Numbered h) (announced : Announced h s)
    {topic : String} {id : UInt64} (reported : .subscribeFailed topic id ∈ h.entered) :
    ∃ before qos ack after error, h.handled = before ++ .subscribe topic qos ack :: after ∧
      id = subscriptionId (subscriptions before) ∧
      (firstOrder topic qos ack (subscriptions before), .error error) ∈ h.answered := by
  have hrefused := announced.sent.subset (List.mem_filter.mpr ⟨reported, rfl⟩)
  obtain ⟨⟨order, outcome⟩, hanswered, hreport⟩ := List.mem_filterMap.mp hrefused
  obtain ⟨id', error, hfirst, rfl, hcommand⟩ := refusal?_eq_some_iff.mp hreport
  obtain ⟨rfl, rfl⟩ := Command.subscribeFailed.inj hcommand
  have hordered := flows.answered_prefix.subset (List.mem_map_of_mem hanswered)
  obtain ⟨before, topic, qos, ack, after, hsplit, rfl⟩ := numbered.made order hordered id hfirst
  exact ⟨before, qos, ack, after, error, hsplit, (Option.some.inj hfirst).symm, hanswered⟩

/-- No refusal is reported before the command that made the subscription. -/
theorem not_reported_before (announced : Announced h s) {before : List Command} {topic : String}
    (early : before <+: h.entered) (few : subscriptions before < UInt64.size) :
    .subscribeFailed topic (subscriptionId (subscriptions before)) ∉ before := by
  intro hreported
  obtain ⟨first, rest, hbefore⟩ := List.append_of_mem hreported
  obtain ⟨after, hentered⟩ := early
  rw [hbefore, List.append_assoc, List.cons_append] at hentered
  obtain ⟨earlier, qos, ack, between, rfl, hid⟩ := announced.caused first topic _ _ hentered.symm
  -- The report would be about a subscription with a smaller number.
  have hnumber := congrArg subscriptions hbefore
  rw [List.append_assoc, List.cons_append, subscriptions_append_cons] at hnumber
  have heq := subscriptionId_inj (by omega) few hid.symm
  omega

/-- A listed route's first subscribe call is waiting or out, or was accepted, or
its refusal is about to be handled. -/
theorem backed_of_listed (flows : Flows h s) (reg : Registered h s) (numbered : Numbered h)
    (announced : Announced h s) (few : subscriptions h.handled < UInt64.size)
    (isOpen : s.isOpen = true) {topic : String} {route : Route}
    (listed : s.routes.get? topic = some route) :
    (∃ order : Order, order.IsFirst topic route ∧ (order ∈ s.orders ∨
      s.worker = .calling order ∨ (order, .ok ()) ∈ h.answered)) ∨
        .subscribeFailed topic route.id ∈ s.commands := by
  obtain ⟨before, ack, after, hsplit, hinbox, hid, hkeeps⟩ := reg.held topic route listed
  have hordered := numbered.ordered before topic route.qos ack after hsplit
  have hfirst : (firstOrder topic route.qos ack (subscriptions before)).IsFirst topic route :=
    ⟨rfl, congrArg some hid.symm⟩
  have hworking := flows.working_of_isOpen isOpen
  rcases flows.waits_or_called hworking hordered with hwaits | hout | ⟨outcome, hanswered⟩
  · exact Or.inl ⟨_, hfirst, Or.inl hwaits⟩
  · exact Or.inl ⟨_, hfirst, Or.inr (Or.inl hout)⟩
  · cases outcome with
    | ok u => exact Or.inl ⟨_, hfirst, Or.inr (Or.inr hanswered)⟩
    | error error =>
        right
        -- The refusal was reported; it has not been handled, or the route would be gone.
        have hrefused : .subscribeFailed topic route.id ∈ refusals h.answered :=
          List.mem_filterMap.mpr ⟨_, hanswered, by rw [hid]; rfl⟩
        rw [← announced.complete isOpen] at hrefused
        have hreported := (List.mem_filter.mp hrefused).1
        have hlt : subscriptions before < UInt64.size := by
          rw [hsplit, subscriptions_append_cons] at few
          omega
        have hearly : before <+: h.entered := by
          rw [flows.entered, hsplit, List.append_assoc]
          exact List.prefix_append _ _
        rw [flows.entered, hsplit, List.append_assoc, List.mem_append, List.cons_append,
          List.mem_cons, List.mem_append] at hreported
        rcases hreported with hbefore | hsubscribe | hafter | hqueued
        · exact absurd (hid ▸ hbefore) (not_reported_before announced hearly hlt)
        · exact absurd hsubscribe (by simp)
        · exact absurd (hkeeps _ hafter) (by simp [Command.endsRoute])
        · exact hqueued

/-- Handling a failure report takes away the route of the refused subscription
and nothing else. -/
theorem routes_after_failure (flows : Flows h s) (reg : Registered h s) (numbered : Numbered h)
    (announced : Announced h s) (few : subscriptions h.handled < UInt64.size)
    (active : s.phase ≠ .ended) {topic : String} {id : UInt64} {rest : List Command}
    (front : s.commands = .subscribeFailed topic id :: rest) :
    ∃ before qos ack after error t, h.handled = before ++ .subscribe topic qos ack :: after ∧
      id = subscriptionId (subscriptions before) ∧
      (firstOrder topic qos ack (subscriptions before), .error error) ∈ h.answered ∧
      s.step? .handle = some t ∧
      (∀ other route, t.routes.get? other = some route ↔
        s.routes.get? other = some route ∧
          ¬ (other = topic ∧ route.inbox = subscriptions before)) ∧
      (∀ route order, s.routes.get? topic = some route → Order.IsFirst order topic route →
        (order, .ok ()) ∈ h.answered → t.routes.get? topic = some route) := by
  have hreported : .subscribeFailed topic id ∈ h.entered := by
    rw [flows.entered, front]
    simp
  obtain ⟨before, qos, ack, after, error, hsplit, hid, hrefused⟩ :=
    refused_of_report flows numbered announced hreported
  have hroutes : ∀ other route,
      (s.routesAfter (.subscribeFailed topic id)).get? other = some route ↔
        s.routes.get? other = some route ∧
          ¬ (other = topic ∧ route.inbox = subscriptions before) := by
    intro other route
    have hsame : s.routes.get? other = some route →
        (id = route.id ↔ route.inbox = subscriptions before) := by
      intro hlisted
      have hheld := reg.held other route hlisted
      have hlt : subscriptions before < UInt64.size := by
        rw [hsplit, subscriptions_append_cons] at few
        omega
      rw [hid, hheld.id_eq]
      constructor
      · exact fun hids => (subscriptionId_inj hlt (hheld.inbox_lt.trans few) hids).symm
      · exact fun hinbox => hinbox ▸ rfl
    rw [s.get?_routesAfter]
    constructor
    · rintro (⟨hlisted, hkeeps, -⟩ | ⟨qos, ack, hcommand, -⟩)
      · refine ⟨hlisted, ?_⟩
        rintro ⟨rfl, hinbox⟩
        simp [Command.endsRoute, (hsame hlisted).mpr hinbox] at hkeeps
      · exact absurd hcommand (by simp)
    · rintro ⟨hlisted, hother⟩
      refine Or.inl ⟨hlisted, ?_, fun hloses => absurd hloses.2 (by simp)⟩
      by_cases htopic : topic = other
      · have hne : id ≠ route.id := fun hids =>
          hother ⟨htopic.symm, (hsame hlisted).mp hids⟩
        simp [Command.endsRoute, hne]
      · simp [Command.endsRoute, htopic]
  refine ⟨before, qos, ack, after, error, _, hsplit, hid, hrefused,
    State.step?_of_step (.handle active front), hroutes, ?_⟩
  intro route order hlisted hfirst haccepted
  refine (hroutes topic route).mpr ⟨hlisted, fun hmine => ?_⟩
  -- The same call would have been refused and accepted.
  have hroute : order.route = some (subscriptionId (subscriptions before)) := by
    rw [hfirst.2, (reg.held topic route hlisted).id_eq, hmine.2]
  have hsame := answered_unique flows numbered few hrefused haccepted rfl hroute
  exact absurd (Prod.mk.inj hsame).2 (by simp)

/-- When a caller can see that a subscription was refused, the manager has been
told. -/
theorem reported_of_seen (flows : Flows h s) (numbered : Numbered h) (announced : Announced h s)
    (tracked : Tracked h s) (isOpen : s.isOpen = true) {before after : List Command}
    {topic : String} {qos : QoS} {ack : Nat} {error : TransportError}
    (made : h.handled = before ++ .subscribe topic qos ack :: after)
    (seen : s.acks[ack]? = some (some (.error error))) :
    .subscribeFailed topic (subscriptionId (subscriptions before)) ∈ h.entered := by
  have hordered := numbered.ordered before topic qos ack after made
  have hlt := (List.getElem?_eq_some_iff.mp seen).1
  rw [tracked.shown ack hlt] at seen
  obtain ⟨order, hsettled, hobserver⟩ :=
    mem_outcomesFor.mp (List.mem_of_mem_head? (Option.some.inj seen))
  have hworking := flows.working_of_isOpen isOpen
  have hanswered : (order, .error error) ∈ h.answered := by
    have hreported := List.mem_append_left s.worker.reported hsettled
    rw [flows.settled, (flows.working hworking).1] at hreported
    simpa [State.closings] using hreported
  -- The acknowledgement is this subscription's alone.
  have hsame : order = firstOrder topic qos ack (subscriptions before) :=
    tracked.order_eq flows (flows.answered_prefix.subset (List.mem_map_of_mem hanswered)) hordered
      hobserver rfl
  have hrefused : .subscribeFailed topic (subscriptionId (subscriptions before)) ∈
      refusals h.answered :=
    List.mem_filterMap.mpr ⟨_, hanswered, by rw [hsame]; rfl⟩
  rw [← announced.complete isOpen] at hrefused
  exact (List.mem_filter.mp hrefused).1

/-- Once a subscription's refusal has been handled, no message reaches it. -/
theorem dispatch_passes_refused (flows : Flows h s) (reg : Registered h s)
    (announced : Announced h s) (few : subscriptions h.handled < UInt64.size)
    {before after : List Command} {topic : String} {qos : QoS} {ack : Nat}
    (made : h.handled = before ++ .subscribe topic qos ack :: after)
    (handled : .subscribeFailed topic (subscriptionId (subscriptions before)) ∈ h.handled)
    (other : String) (payload : ByteArray) :
    (s.perform (.dispatch other payload)).inboxes[subscriptions before]? =
      s.inboxes[subscriptions before]? := by
  have hnumber : subscriptions before < subscriptions h.handled := by
    rw [made, subscriptions_append_cons]
    omega
  have hearly : before <+: h.entered := by
    rw [flows.entered, made, List.append_assoc]
    exact List.prefix_append _ _
  have hended : .subscribeFailed topic (subscriptionId (subscriptions before)) ∈ after := by
    rw [made, List.mem_append, List.mem_cons] at handled
    rcases handled with hbefore | hsubscribe | hafter
    · exact absurd hbefore (not_reported_before announced hearly (hnumber.trans few))
    · exact absurd hsubscribe (by simp)
    · exact hafter
  rw [State.perform_eq]
  show (s.inboxesAfter (.dispatch other payload))[_]? = _
  rw [State.getElem?_inboxesAfter _ (reg.inboxes ▸ hnumber)]
  have hnothing : s.itemsFor (subscriptions before) (.dispatch other payload) = [] := by
    rw [State.itemsFor, if_neg]
    intro hany
    obtain ⟨route, hfound, hinbox⟩ := Option.any_eq_true _ _ |>.mp hany
    have hheld := reg.held other route hfound
    rw [made] at hheld
    have hkeeps := (hheld.of_split (of_decide_eq_true hinbox)).2.2 _ hended
    simp [Command.endsRoute] at hkeeps
  rw [hnothing]
  simp

/-- What is submitted after a report stands behind it in the queue, and the
report does not come again. -/
theorem report_stays_ahead {actions more : List Action} {s t : State} {what : Submission}
    (run : State.initial.run? actions = some s)
    (later : State.initial.run? (actions ++ .submit what :: more) = some t)
    (few : subscriptions (history (actions ++ .submit what :: more)).handled < UInt64.size)
    {topic : String} {id : UInt64}
    (reported : .subscribeFailed topic id ∈ (history actions).entered) :
    ∃ rest, (history (actions ++ .submit what :: more)).handled ++ t.commands =
        (history actions).entered ++ what.command s.acks.length :: rest ∧
      .subscribeFailed topic id ∉ what.command s.acks.length :: rest := by
  have hgrown : (history actions).entered ++ [what.command s.acks.length] <+:
      (history (actions ++ .submit what :: more)).entered := by
    have hsubmit := later
    rw [State.run?_append, run, Option.bind_some, State.run?, Option.bind_eq_some_iff] at hsubmit
    obtain ⟨u, hu, -⟩ := hsubmit
    rw [history_append run, History.along, hu]
    exact ((history actions).extend s (.submit what)).entered_along u more
  obtain ⟨rest, hrest⟩ := hgrown
  rw [List.append_assoc, List.singleton_append] at hrest
  refine ⟨rest, ?_, fun hagain => ?_⟩
  · rw [← (flows_of_run later).entered, hrest]
  · -- The same report twice in the queue is one too many.
    have hdistinct := nodup_failures (flows_of_run later) (numbered_of_run later)
      (announced_of_run later) few
    rw [← hrest, failures_append] at hdistinct
    exact (List.nodup_append.mp hdistinct).2.2 _ (List.mem_filter.mpr ⟨reported, rfl⟩) _
      (List.mem_filter.mpr ⟨hagain, rfl⟩) rfl

end

/-- A refusal ends its own subscription's route and no other.  While the queue is
open, every listed route has its first subscribe call waiting or out or
accepted, or is about to be removed; a failure report removes the route of the
refused subscription and only that; and whatever a caller submits after it has
seen the refusal is handled after the one report, when no message reaches the
refused subscription any more. -/
theorem refusal_ends_own_route {actions : List Action} {s : State}
    (run : State.initial.run? actions = some s)
    (few : subscriptions (history actions).handled < UInt64.size) (isOpen : s.isOpen = true) :
    (∀ topic route, s.routes.get? topic = some route →
      (∃ order : Order, order.IsFirst topic route ∧ (order ∈ s.orders ∨
        s.worker = .calling order ∨ (order, .ok ()) ∈ (history actions).answered)) ∨
          .subscribeFailed topic route.id ∈ s.commands) ∧
    (∀ topic id rest, s.commands = .subscribeFailed topic id :: rest →
      ∃ before qos ack after error t,
        (history actions).handled = before ++ .subscribe topic qos ack :: after ∧
        id = subscriptionId (subscriptions before) ∧
        (firstOrder topic qos ack (subscriptions before), .error error) ∈
          (history actions).answered ∧
        s.step? .handle = some t ∧
        (∀ other route, t.routes.get? other = some route ↔
          s.routes.get? other = some route ∧
            ¬ (other = topic ∧ route.inbox = subscriptions before)) ∧
        (∀ route order, s.routes.get? topic = some route → Order.IsFirst order topic route →
          (order, .ok ()) ∈ (history actions).answered → t.routes.get? topic = some route)) ∧
    (∀ before topic qos ack after error,
      (history actions).handled = before ++ .subscribe topic qos ack :: after →
      s.acks[ack]? = some (some (.error error)) → ∀ what more t,
      State.initial.run? (actions ++ .submit what :: more) = some t →
      subscriptions (history (actions ++ .submit what :: more)).handled < UInt64.size →
      .subscribeFailed topic (subscriptionId (subscriptions before)) ∈ (history actions).entered ∧
      (∃ rest, (history (actions ++ .submit what :: more)).handled ++ t.commands =
          (history actions).entered ++ what.command s.acks.length :: rest ∧
        .subscribeFailed topic (subscriptionId (subscriptions before)) ∉
          what.command s.acks.length :: rest) ∧
      ((history actions).entered <+: (history (actions ++ .submit what :: more)).handled →
        ∀ other payload, (t.perform (.dispatch other payload)).inboxes[subscriptions before]? =
          t.inboxes[subscriptions before]?)) := by
  have flows := flows_of_run run
  have reg := registered_of_run run
  have numbered := numbered_of_run run
  have announced := announced_of_run run
  refine ⟨?_, ?_, ?_⟩
  · intro topic route hlisted
    exact backed_of_listed flows reg numbered announced few isOpen hlisted
  · intro topic id rest hfront
    exact routes_after_failure flows reg numbered announced few
      (State.active_of_isOpen isOpen) hfront
  · intro before topic qos ack after error hmade hseen what more t hlater hfew
    have hreported := reported_of_seen flows numbered announced (tracked_of_run run) isOpen
      hmade hseen
    refine ⟨hreported, report_stays_ahead run hlater hfew hreported, ?_⟩
    rintro ⟨done, hdone⟩ other payload
    have hmade' : (history (actions ++ .submit what :: more)).handled =
        before ++ .subscribe topic qos ack :: (after ++ s.commands ++ done) := by
      rw [← hdone, flows.entered, hmade]
      simp
    exact dispatch_passes_refused (flows_of_run hlater) (registered_of_run hlater)
      (announced_of_run hlater) hfew hmade' (hdone ▸ List.mem_append_left _ hreported) other payload

/-- A subscription is replaced by another one on its topic before the transport
refuses it; the report is about to be handled. -/
def replacedAndRefused : List Action :=
  [.submit (.subscribe "a" .atLeastOnce), .handle, .start, .submit (.subscribe "a" .atMostOnce),
    .handle, .answer (.error (.rejected "full")), .settle]

def afterReplacedAndRefused : State := (State.initial.run? replacedAndRefused).getD .initial

theorem replacement_outlives_refusal :
    State.initial.run? replacedAndRefused = some afterReplacedAndRefused ∧
      subscriptions (history replacedAndRefused).handled < UInt64.size ∧
      afterReplacedAndRefused.isOpen = true ∧
      afterReplacedAndRefused.commands = [.subscribeFailed "a" 0] ∧
      ∃ t, afterReplacedAndRefused.step? .handle = some t ∧
        t.routes.get? "a" = some ⟨1, .atMostOnce, 1⟩ := by
  have hrun : State.initial.run? replacedAndRefused = some afterReplacedAndRefused := by decide
  have hhandled : (history replacedAndRefused).handled =
      [.subscribe "a" .atLeastOnce 0, .subscribe "a" .atMostOnce 1] := by decide
  have hfew : subscriptions (history replacedAndRefused).handled < UInt64.size := by
    rw [hhandled]
    decide
  have hopen : afterReplacedAndRefused.isOpen = true := by decide
  have hfront : afterReplacedAndRefused.commands = [.subscribeFailed "a" 0] := by decide
  obtain ⟨before, qos, ack, after, error, t, hmade, hid, -, hstep, hroutes, -⟩ :=
    (refusal_ends_own_route hrun hfew hopen).2.1 "a" 0 [] hfront
  refine ⟨hrun, hfew, hopen, hfront, t, hstep, ?_⟩
  have hnumber : subscriptions before = 0 := by
    rw [hmade, subscriptions_append_cons] at hfew
    have hzero := congrArg UInt64.toNat hid
    rw [subscriptionId, UInt64.toNat_ofNat_of_lt' (by show _ < UInt64.size; omega)] at hzero
    exact hzero.symm
  refine (hroutes "a" ⟨1, .atMostOnce, 1⟩).mpr ⟨by decide, ?_⟩
  rintro ⟨-, hinbox⟩
  exact absurd (hinbox.trans hnumber) (by decide)

end DeviceLink.Session
