import DeviceLink.Proofs.Session.Refusal

/-!
# What is released at the end

When the manager ends it unsubscribes the topics that still have a route.  A
topic whose route was replaced or removed by a caller has been taken care of by
then.  But a refusal also removes a route (`Command.subscribeFailed`), and no
unsubscribe call goes with it: the transport may hold the topic from before the
refused call, or because it was brought back in between.  Such a topic is
`Stranded`, and these are all the topics that a session leaves behind
(`Accounted`).
-/

namespace DeviceLink.Session

/-! ## What the transport holds -/

/-- A call by which the transport comes to hold a topic. -/
def Accepts (topic : String) (e : Ending) : Prop :=
  e.2 = .ok () ∧ ∃ qos, e.1.call = .subscribe topic qos

def heldAfter (topic : String) (held : Bool) (e : Ending) : Bool :=
  match e.1.call, e.2 with
  | .subscribe t _, .ok () => held || t = topic
  | .unsubscribe t, _ => held && t ≠ topic
  | _, _ => held

def isHeld (topic : String) (endings : List Ending) : Bool :=
  endings.foldl (heldAfter topic) false

/-- Whether the transport would hold a topic if it accepted every call. -/
def mayHold (topic : String) (orders : List Order) : Bool :=
  isHeld topic (orders.map fun order => (order, .ok ()))

/-- Every subscribe call on the topic that was accepted, and so the last one, is
followed by an unsubscribe call on it. -/
def Released (topic : String) (endings : List Ending) : Prop :=
  ∀ before e after, endings = before ++ e :: after → Accepts topic e →
    ∃ d ∈ after, d.1.call = .unsubscribe topic

section

variable {topic : String}

theorem isHeld_concat_iff {endings : List Ending} {e : Ending} :
    isHeld topic (endings ++ [e]) = true ↔
      Accepts topic e ∨ (isHeld topic endings = true ∧ e.1.call ≠ .unsubscribe topic) := by
  unfold isHeld Accepts
  rw [List.foldl_append]
  show heldAfter topic (endings.foldl (heldAfter topic) false) e = true ↔ _
  obtain ⟨⟨call, observer, route⟩, outcome⟩ := e
  cases call with
  | subscribe t qos =>
      cases outcome with
      | ok u => simp [heldAfter, or_comm]
      | error error => simp [heldAfter]
  | unsubscribe t => simp [heldAfter]
  | publish t payload qos => simp [heldAfter]

theorem mayHold_concat_iff {orders : List Order} {order : Order} :
    mayHold topic (orders ++ [order]) = true ↔ (∃ qos, order.call = .subscribe topic qos) ∨
      (mayHold topic orders = true ∧ order.call ≠ .unsubscribe topic) := by
  unfold mayHold
  rw [List.map_append, List.map_singleton, isHeld_concat_iff]
  simp [Accepts]

/-- A topic is released when the transport does not hold it any more. -/
theorem released_iff_isHeld {endings : List Ending} :
    Released topic endings ↔ isHeld topic endings = false := by
  induction endings using List.reverseRecOn with
  | nil =>
      constructor
      · exact fun _ => rfl
      · exact fun _ before e after hsplit => absurd hsplit (by simp)
  | append_singleton endings d ih =>
      rw [← Bool.not_eq_true, isHeld_concat_iff, not_or, not_and, not_not]
      constructor
      · intro hreleased
        refine ⟨fun haccepts => ?_, fun hheld => ?_⟩
        · obtain ⟨e, hmem, -⟩ := hreleased endings d [] rfl haccepts
          exact absurd hmem List.not_mem_nil
        · by_contra hcall
          have hearlier : Released topic endings := by
            intro before e after hsplit haccepts
            obtain ⟨e', hmem, he'⟩ := hreleased before e (after ++ [d]) (by simp [hsplit]) haccepts
            rcases List.mem_append.mp hmem with hafter | hlast
            · exact ⟨e', hafter, he'⟩
            · exact absurd (List.mem_singleton.mp hlast ▸ he') hcall
          exact absurd (hheld.symm.trans (ih.mp hearlier)) (by simp)
      · rintro ⟨hrefuses, hends⟩ before e after hsplit haccepts
        rcases concat_eq_split hsplit with ⟨-, -, rfl⟩ | ⟨after, rfl, hold⟩
        · exact absurd haccepts hrefuses
        · cases hheld : isHeld topic endings with
          | true => exact ⟨d, by simp, hends hheld⟩
          | false =>
              obtain ⟨e', hafter, he'⟩ := ih.mpr hheld before e after hold haccepts
              exact ⟨e', List.mem_append_left _ hafter, he'⟩

theorem mayHold_of_isHeld {endings : List Ending} (held : isHeld topic endings = true) :
    mayHold topic (endings.map Prod.fst) = true := by
  induction endings using List.reverseRecOn with
  | nil => exact absurd held (by simp [isHeld])
  | append_singleton endings e ih =>
      rw [List.map_append, List.map_singleton, mayHold_concat_iff]
      rcases isHeld_concat_iff.mp held with haccepts | ⟨hearlier, hcall⟩
      · exact Or.inl haccepts.2
      · exact Or.inr ⟨ih hearlier, hcall⟩

/-- Calls that do not unsubscribe a topic add what they accept. -/
theorem isHeld_append_iff {early late : List Ending}
    (quiet : ∀ e ∈ late, e.1.call ≠ .unsubscribe topic) :
    isHeld topic (early ++ late) = true ↔
      isHeld topic early = true ∨ ∃ e ∈ late, Accepts topic e := by
  induction late using List.reverseRecOn with
  | nil => simp
  | append_singleton late e ih =>
      have hlate := ih fun d hd => quiet d (List.mem_append_left _ hd)
      have hcall := quiet e (by simp)
      rw [← List.append_assoc, isHeld_concat_iff, hlate]
      constructor
      · rintro (haccepts | ⟨hearly | ⟨d, hd, haccepts⟩, -⟩)
        · exact Or.inr ⟨e, by simp, haccepts⟩
        · exact Or.inl hearly
        · exact Or.inr ⟨d, List.mem_append_left _ hd, haccepts⟩
      · rintro (hearly | ⟨d, hd, haccepts⟩)
        · exact Or.inr ⟨Or.inl hearly, hcall⟩
        · rcases List.mem_append.mp hd with hd | hd
          · exact Or.inr ⟨Or.inr ⟨d, hd, haccepts⟩, hcall⟩
          · exact Or.inl (List.mem_singleton.mp hd ▸ haccepts)

/-- Orders that do not subscribe a topic can only give it up. -/
theorem mayHold_append_iff {orders more : List Order}
    (silent : ∀ order ∈ more, ∀ qos, order.call ≠ .subscribe topic qos) :
    mayHold topic (orders ++ more) = true ↔
      mayHold topic orders = true ∧ ∀ order ∈ more, order.call ≠ .unsubscribe topic := by
  induction more using List.reverseRecOn with
  | nil => simp
  | append_singleton more order ih =>
      have hmore := ih fun o ho => silent o (List.mem_append_left _ ho)
      have hcall := silent order (by simp)
      rw [← List.append_assoc, mayHold_concat_iff, hmore]
      constructor
      · rintro (⟨qos, hsubscribe⟩ | ⟨⟨horders, hquiet⟩, hlast⟩)
        · exact absurd hsubscribe (hcall qos)
        · refine ⟨horders, fun o ho => ?_⟩
          rcases List.mem_append.mp ho with ho | ho
          · exact hquiet o ho
          · exact List.mem_singleton.mp ho ▸ hlast
      · rintro ⟨horders, hquiet⟩
        exact Or.inr ⟨⟨horders, fun o ho => hquiet o (List.mem_append_left _ ho)⟩,
          hquiet order (by simp)⟩

end

/-! ## The last subscription on a topic -/

/-- Whether a caller gives a topic to another handler or gives it up. -/
def Command.reroutes (topic : String) : Command → Bool
  | subscribe t _ _ => t = topic
  | unsubscribe t _ => t = topic
  | _ => false

/-- The commands make a subscription on the topic, and no caller asks for the
topic again. -/
def LastOn (commands : List Command) (topic : String) (qos : QoS) (ack : Nat)
    (before after : List Command) : Prop :=
  commands = before ++ .subscribe topic qos ack :: after ∧
    ∀ c ∈ after, c.reroutes topic = false

theorem endsRoute_eq_false_iff {c : Command} {topic : String} {id : UInt64} :
    c.endsRoute topic id = false ↔ c.reroutes topic = false ∧ c ≠ .subscribeFailed topic id := by
  cases c <;> simp [Command.endsRoute, Command.reroutes]

theorem LastOn.concat {commands before after : List Command} {topic : String} {qos : QoS}
    {ack : Nat} {c : Command} (last : LastOn commands topic qos ack before after)
    (keeps : c.reroutes topic = false) :
    LastOn (commands ++ [c]) topic qos ack before (after ++ [c]) := by
  refine ⟨by simp [last.1], fun d hd => ?_⟩
  rcases List.mem_append.mp hd with hd | hd
  · exact last.2 d hd
  · exact List.mem_singleton.mp hd ▸ keeps

/-- The subscription that holds a topic's route is the last one on the topic,
and its refusal has not been handled. -/
theorem Holds.lastOn {commands : List Command} {topic : String} {route : Route}
    (holds : Holds commands topic route) : ∃ before ack after,
      LastOn commands topic route.qos ack before after ∧
        route.id = subscriptionId (subscriptions before) ∧
        .subscribeFailed topic route.id ∉ after := by
  obtain ⟨before, ack, after, hsplit, -, hid, hafter⟩ := holds
  refine ⟨before, ack, after, ⟨hsplit, fun c hc => ?_⟩, hid, fun hfailed => ?_⟩
  · exact (endsRoute_eq_false_iff.mp (hafter c hc)).1
  · exact (endsRoute_eq_false_iff.mp (hafter _ hfailed)).2 rfl

theorem LastOn.unique {commands before after before' after' : List Command} {topic : String}
    {qos qos' : QoS} {ack ack' : Nat} (last : LastOn commands topic qos ack before after)
    (last' : LastOn commands topic qos' ack' before' after') :
    before = before' ∧ after = after' := by
  have hsame := last.1.symm.trans last'.1
  rcases List.append_eq_append_iff.mp hsame with ⟨between, rfl, htail⟩ | ⟨between, rfl, htail⟩
  · cases between with
    | nil => exact ⟨(List.append_nil _).symm, (List.cons.inj htail).2⟩
    | cons c rest =>
        have hlater := last.2 (.subscribe topic qos' ack') (by rw [(List.cons.inj htail).2]; simp)
        simp [Command.reroutes] at hlater
  · cases between with
    | nil => exact ⟨List.append_nil _, (List.cons.inj htail).2.symm⟩
    | cons c rest =>
        have hlater := last'.2 (.subscribe topic qos ack) (by rw [(List.cons.inj htail).2]; simp)
        simp [Command.reroutes] at hlater

/-! ## The orders on a topic -/

section

variable {s : State} {command : Command} {order : Order} {topic : String} {qos : QoS}

/-- Only a caller's subscribe, and bringing a route back, subscribes a topic. -/
theorem subscribe_ordersFor (made : order ∈ s.ordersFor command)
    (call : order.call = .subscribe topic qos) :
    command.reroutes topic = true ∨ ∃ route, (topic, route) ∈ s.routes := by
  cases State.makes_of_mem made with
  | subscribe => exact Or.inl (decide_eq_true (TransportCall.subscribe.inj call).1)
  | resubscribe hlisted =>
      obtain ⟨rfl, -⟩ := TransportCall.subscribe.inj call
      exact Or.inr ⟨_, hlisted⟩
  | _ => exact absurd call (by simp)

/-- Only a caller's unsubscribe, and a message for a handler whose task is gone,
unsubscribes a topic. -/
theorem unsubscribe_ordersFor (made : order ∈ s.ordersFor command)
    (call : order.call = .unsubscribe topic) : command.reroutes topic = true ∨
      ∃ route, s.routes.get? topic = some route ∧ s.losesRoute command topic route := by
  cases State.makes_of_mem made with
  | unsubscribe => exact Or.inl (decide_eq_true (TransportCall.unsubscribe.inj call))
  | dispatch hfound hclosed =>
      obtain rfl := TransportCall.unsubscribe.inj call
      exact Or.inr ⟨_, hfound, hclosed, _, rfl⟩
  | _ => exact absurd call (by simp)

theorem unsubscribe_releaseOrders {routes : Routes} :
    (∃ order ∈ State.releaseOrders routes, order.call = .unsubscribe topic) ↔
      ∃ route, (topic, route) ∈ routes := by
  constructor
  · rintro ⟨order, hmade, hcall⟩
    obtain ⟨⟨t, route⟩, hlisted, rfl⟩ := List.mem_map.mp hmade
    obtain rfl := TransportCall.unsubscribe.inj hcall
    exact ⟨route, hlisted⟩
  · rintro ⟨route, hlisted⟩
    exact ⟨_, List.mem_map_of_mem hlisted, rfl⟩

end

/-! ## What the manager has seen to -/

/-- Which topics the manager has not seen to: those that have a route, as long as
the manager runs, and those whose last subscription was refused. -/
structure Accounted (h : History) (s : State) : Prop where
  /-- A topic that has no route and may be held has lost its route to a refusal. -/
  lost : ∀ topic, (s.phase ≠ .ended → ∀ route, ¬ Holds h.handled topic route) →
    mayHold topic h.ordered = true → ∃ before qos ack after,
      LastOn h.handled topic qos ack before after ∧
        .subscribeFailed topic (subscriptionId (subscriptions before)) ∈ after
  /-- After its last subscription a topic is unsubscribed only at the end, and not
  even then if that subscription was refused. -/
  kept : ∀ topic before qos ack after, LastOn h.handled topic qos ack before after →
    (s.phase = .ended → .subscribeFailed topic (subscriptionId (subscriptions before)) ∈ after) →
    ∃ early late, h.ordered = early ++ firstOrder topic qos ack (subscriptions before) :: late ∧
      ∀ order ∈ late, order.call ≠ .unsubscribe topic

namespace Accounted

variable {h : History} {s t : State} {a : Action}

theorem initial : Accounted {} .initial where
  lost := fun topic _ hheld => absurd hheld (by simp [mayHold, isHeld])
  kept := fun _ _ _ _ _ hlast => absurd hlast.1 (by simp)

theorem frame (accounted : Accounted h s) {next : History} (handled : next.handled = h.handled)
    (ordered : next.ordered = h.ordered) (phase : t.phase = .ended ↔ s.phase = .ended) :
    Accounted next t := by
  constructor
  · intro topic hunheld hheld
    rw [handled] at hunheld ⊢
    rw [ordered] at hheld
    exact accounted.lost topic (fun hactive => hunheld (mt phase.mp hactive)) hheld
  · intro topic before qos ack after hlast hended
    rw [handled] at hlast
    rw [ordered]
    exact accounted.kept topic before qos ack after hlast fun hphase => hended (phase.mpr hphase)

theorem handle_lost (reg : Registered h s) (accounted : Accounted h s) {command : Command}
    {topic : String}
    (unheld : ∀ route, ¬ Holds (h.handled ++ [command]) topic route)
    (held : mayHold topic (h.ordered ++ s.ordersFor command) = true) :
    ∃ before qos ack after, LastOn (h.handled ++ [command]) topic qos ack before after ∧
      .subscribeFailed topic (subscriptionId (subscriptions before)) ∈ after := by
  cases hreroutes : command.reroutes topic with
  | true =>
      cases command with
      | subscribe t qos ack =>
          obtain rfl := of_decide_eq_true hreroutes
          exact absurd (Holds.concat_iff.mpr (Or.inr ⟨qos, ack, rfl, rfl⟩)) (unheld _)
      | unsubscribe t ack =>
          obtain rfl := of_decide_eq_true hreroutes
          rcases mayHold_concat_iff.mp held with ⟨qos, hcall⟩ | ⟨-, hcall⟩
          · exact absurd hcall (by simp)
          · exact absurd rfl hcall
      | _ => exact absurd hreroutes (by simp [Command.reroutes])
  | false =>
      by_cases hrouted : ∃ route, Holds h.handled topic route
      · -- The command ends the route and is no caller's, so it reports the refusal.
        obtain ⟨route, hroute⟩ := hrouted
        have hreport : command = .subscribeFailed topic route.id := by
          by_contra hother
          exact unheld route (Holds.concat_iff.mpr
            (Or.inl ⟨hroute, endsRoute_eq_false_iff.mpr ⟨hreroutes, hother⟩⟩))
        obtain ⟨before, ack, after, hlast, hid, -⟩ := hroute.lastOn
        refine ⟨before, route.qos, ack, after ++ [command], hlast.concat hreroutes, ?_⟩
        rw [hreport, hid]
        simp
      · have hsilent : ∀ order ∈ s.ordersFor command, ∀ qos, order.call ≠ .subscribe topic qos := by
          intro order hmade qos hcall
          rcases subscribe_ordersFor hmade hcall with htrue | ⟨route, hlisted⟩
          · exact absurd (hreroutes.symm.trans htrue) (by simp)
          · exact hrouted ⟨route,
              reg.held topic route (reg.onePerTopic.get?_eq_some_iff.mpr hlisted)⟩
        obtain ⟨before, qos, ack, after, hlast, hfailed⟩ := accounted.lost topic
          (fun _ route hroute => hrouted ⟨route, hroute⟩) ((mayHold_append_iff hsilent).mp held).1
        exact ⟨before, qos, ack, after ++ [command], hlast.concat hreroutes,
          List.mem_append_left _ hfailed⟩

theorem handle (reg : Registered h s) (returned : h.failed = []) (accounted : Accounted h s)
    {command : Command} {rest : List Command} (active : s.phase ≠ .ended)
    (front : s.commands = command :: rest) : Accounted (h.extend s .handle) { s with
      commands := rest
      routes := s.routesAfter command
      inboxes := s.inboxesAfter command
      orders := s.orders ++ s.ordersFor command
      nextId := s.nextIdAfter command } := by
  simp only [History.extend, front]
  constructor
  · intro topic hunheld hheld
    exact accounted.handle_lost reg (hunheld active) hheld
  · intro topic before qos ack after hlast _
    rcases concat_eq_split hlast.1 with ⟨rfl, rfl, rfl⟩ | ⟨after, rfl, hold⟩
    · refine ⟨h.ordered, [], ?_, fun _ hmem => absurd hmem List.not_mem_nil⟩
      rw [State.ordersFor, firstOrder, reg.nextId]
    · -- A command that does not reroute the topic unsubscribes it only for a handler that is gone.
      obtain ⟨early, late, hordered, hquiet⟩ := accounted.kept topic before qos ack after
        ⟨hold, fun c hc => hlast.2 c (List.mem_append_left _ hc)⟩ fun hended => absurd hended active
      refine ⟨early, late ++ s.ordersFor command, by simp [hordered], fun order hmem hcall => ?_⟩
      rcases List.mem_append.mp hmem with hlate | hmade
      · exact hquiet order hlate hcall
      · rcases unsubscribe_ordersFor hmade hcall with htrue | ⟨route, hlisted, hloses⟩
        · exact absurd ((hlast.2 command (by simp)).symm.trans htrue) (by simp)
        · exact reg.not_losesRoute returned hlisted hloses

theorem finish (reg : Registered h s) (returned : h.failed = []) (accounted : Accounted h s)
    (draining : s.phase = .draining) : Accounted (h.extend s .finish) { s with
      phase := .ended
      routes := []
      orders := s.orders ++ State.releaseOrders s.routes } := by
  have hactive : s.phase ≠ .ended := by simp [draining]
  constructor
  · intro topic _ hheld
    have hsilent : ∀ order ∈ State.releaseOrders s.routes, ∀ qos,
        order.call ≠ .subscribe topic qos := by
      intro order hmade qos hcall
      obtain ⟨e, -, rfl⟩ := List.mem_map.mp hmade
      exact absurd hcall (by simp)
    obtain ⟨hearlier, hkept⟩ := (mayHold_append_iff hsilent).mp hheld
    -- A topic with a route has just been unsubscribed.
    refine accounted.lost topic (fun _ route hroute => ?_) hearlier
    have hlisted := reg.listed returned hactive topic route hroute
    obtain ⟨order, hmade, hcall⟩ :=
      unsubscribe_releaseOrders.mpr ⟨route, Routes.mem_of_get? hlisted⟩
    exact hkept order hmade hcall
  · intro topic before qos ack after hlast hended
    obtain ⟨early, late, hordered, hquiet⟩ :=
      accounted.kept topic before qos ack after hlast fun hended => absurd hended hactive
    refine ⟨early, late ++ State.releaseOrders s.routes, by simp [History.extend, hordered], ?_⟩
    intro order hmem hcall
    rcases List.mem_append.mp hmem with hlate | hmade
    · exact hquiet order hlate hcall
    · -- A listed route would be that of the last subscription, which was refused.
      obtain ⟨route, hlisted⟩ := unsubscribe_releaseOrders.mp ⟨order, hmade, hcall⟩
      have hholds := reg.held topic route (reg.onePerTopic.get?_eq_some_iff.mpr hlisted)
      obtain ⟨before', ack', after', hlast', hid, hunfailed⟩ := hholds.lastOn
      obtain ⟨rfl, rfl⟩ := hlast.unique hlast'
      exact hunfailed (hid ▸ hended rfl)

theorem step (reg : Registered h s) (returned : h.failed = []) (accounted : Accounted h s)
    (step : Step s a t) : Accounted (h.extend s a) t := by
  rcases manager_step h step with
    ⟨command, rest, hactive, hfront, rfl, rfl⟩ | ⟨hdraining, rfl, rfl⟩ |
      ⟨hhandled, hordered, hphase⟩
  · exact accounted.handle reg returned hactive hfront
  · exact accounted.finish reg returned hdraining
  · exact accounted.frame hhandled hordered hphase

end Accounted

theorem accounted_of_run {actions : List Action} {s : State}
    (run : State.initial.run? actions = some s) (returned : (history actions).failed = []) :
    Accounted (history actions) s := by
  refine @history_induction (fun h s => h.failed = [] → Accounted h s)
    (fun _ => Accounted.initial) ?_ _ _ run returned
  intro actions s a t hrun haccounted hstep hreturned
  have hearlier : (history actions).failed = [] :=
    List.prefix_nil.mp (hreturned ▸ (history actions).failed_extend s a)
  exact (haccounted hearlier).step (registered_of_run hrun) hearlier hstep

/-! ## Stranded topics -/

/-- The last subscription on the topic was refused while nobody asked for the
topic again, and the transport holds the topic from before the refused call or
has accepted a subscribe call since. -/
def Stranded (h : History) (topic : String) : Prop :=
  ∃ before qos ack after early outcome late,
    LastOn h.handled topic qos ack before after ∧
    .subscribeFailed topic (subscriptionId (subscriptions before)) ∈ after ∧
    h.answered =
      early ++ (firstOrder topic qos ack (subscriptions before), outcome) :: late ∧
    (isHeld topic early = true ∨
      ∃ e ∈ (firstOrder topic qos ack (subscriptions before), outcome) :: late, Accepts topic e)

/-- An order for a caller stands only once among the orders. -/
theorem Tracked.split_eq {h : History} {s : State} (tracked : Tracked h s) (flows : Flows h s)
    {before after before' after' : List Order} {order : Order} {ack : Nat}
    (made : h.ordered = before ++ order :: after) (made' : h.ordered = before' ++ order :: after')
    (observed : order.observer = .caller ack) : before = before' ∧ after = after' := by
  have hcount := tracked.count_le_one flows (List.prefix_refl _) ack
  have hmine : order.request? = some (ack, order.call) := by simp [Order.request?, observed]
  have hone : ∀ orders, order ∈ orders → 1 ≤ ((orderedRequests orders).map Prod.fst).count ack := by
    intro orders hmem
    rw [Nat.one_le_iff_ne_zero, ← Nat.pos_iff_ne_zero, List.count_pos_iff]
    exact List.mem_map.mpr ⟨_, List.mem_filterMap.mpr ⟨order, hmem, hmine⟩, rfl⟩
  rw [made, orderedRequests_append, List.map_append, List.count_append, orderedRequests,
    orderedRequests, List.filterMap_cons_some hmine, List.map_cons, List.count_cons_self] at hcount
  have hearly : order ∉ before := fun hmem => by
    have hagain := hone before hmem
    rw [orderedRequests] at hagain
    omega
  have hlate : order ∉ after := fun hmem => by
    have hagain := hone after hmem
    rw [orderedRequests] at hagain
    omega
  obtain ⟨hbefore, -, hafter⟩ :=
    (List.append_cons_inj_of_notMem hearly hlate).mp (made.symm.trans made')
  exact ⟨hbefore, hafter⟩

/-- When the worker has ended and dropped nothing, it has called the transport
for every order. -/
theorem Flows.drained {h : History} {s : State} (flows : Flows h s) (ended : s.worker = .ended)
    (drained : h.dropped = []) : h.ordered = h.answered.map Prod.fst := by
  have hsettled := flows.settled
  rw [ended, drained, Worker.reported_ended, List.append_nil] at hsettled
  rw [flows.ordered, ended, (flows.workerEnded ended).2, hsettled]
  simp [State.closings]

/-- At the end of a session that was not cut off, every topic is released but
those that are stranded. -/
theorem released_iff_not_stranded {actions : List Action} {s : State}
    (run : State.initial.run? actions = some s) (returned : (history actions).failed = [])
    (ended : s.worker = .ended) (drained : (history actions).dropped = []) (topic : String) :
    Released topic (history actions).answered ↔ ¬ Stranded (history actions) topic := by
  have flows := flows_of_run run
  have tracked := tracked_of_run run
  have accounted := accounted_of_run run returned
  have hphase := (flows.workerEnded ended).1
  have hcalled := flows.drained ended drained
  rw [released_iff_isHeld, ← Bool.not_eq_true, not_iff_not]
  constructor
  · intro hheld
    have hmay := mayHold_of_isHeld hheld
    rw [← hcalled] at hmay
    obtain ⟨before, qos, ack, after, hlast, hfailed⟩ :=
      accounted.lost topic (fun hactive => absurd hphase hactive) hmay
    obtain ⟨early, late, hordered, hquiet⟩ :=
      accounted.kept topic before qos ack after hlast fun _ => hfailed
    rw [hcalled, List.map_eq_append_iff] at hordered
    obtain ⟨early, rest, hsplit, rfl, hrest⟩ := hordered
    obtain ⟨⟨order, outcome⟩, late, rfl, rfl, rfl⟩ := List.map_eq_cons_iff.mp hrest
    refine ⟨before, qos, ack, after, early, outcome, late, hlast, hfailed, hsplit, ?_⟩
    rw [hsplit, isHeld_append_iff] at hheld
    · exact hheld
    · intro e he
      rcases List.mem_cons.mp he with rfl | he
      · simp [firstOrder]
      · exact hquiet e.1 (List.mem_map_of_mem he)
  · rintro ⟨before, qos, ack, after, early, outcome, late, hlast, hfailed, hsplit, hheld⟩
    obtain ⟨early', late', hordered, hquiet⟩ :=
      accounted.kept topic before qos ack after hlast fun _ => hfailed
    have hordered' := hcalled
    rw [hsplit, List.map_append, List.map_cons] at hordered'
    -- Both split the orders at the same call.
    obtain ⟨-, rfl⟩ := tracked.split_eq flows hordered hordered' rfl
    rw [hsplit, isHeld_append_iff]
    · exact hheld
    · intro e he
      rcases List.mem_cons.mp he with rfl | he
      · simp [firstOrder]
      · exact hquiet e.1 (List.mem_map_of_mem he)

/-- Two topics are subscribed, one of them again, which the transport refuses;
then the session is told to stop and ends by itself. -/
def refusedAgain : List Action :=
  [.submit (.subscribe "a" .atLeastOnce), .submit (.subscribe "b" .atLeastOnce), .handle, .handle,
    .start, .answer (.ok ()), .settle, .start, .answer (.ok ()), .settle,
    .submit (.subscribe "a" .atLeastOnce), .handle, .start, .answer (.error (.rejected "no")),
    .settle, .handle, .requestStop, .close, .finish, .start, .answer (.ok ()), .settle, .endWorker]

def afterRefusedAgain : State := (State.initial.run? refusedAgain).getD .initial

theorem refused_again_is_stranded :
    State.initial.run? refusedAgain = some afterRefusedAgain ∧
      (history refusedAgain).failed = [] ∧ afterRefusedAgain.worker = .ended ∧
      (history refusedAgain).dropped = [] ∧ Stranded (history refusedAgain) "a" ∧
      ¬ Stranded (history refusedAgain) "b" := by
  have hrun : State.initial.run? refusedAgain = some afterRefusedAgain := by decide
  have hreturned : (history refusedAgain).failed = [] := by decide
  have hended : afterRefusedAgain.worker = .ended := by decide
  have hdrained : (history refusedAgain).dropped = [] := by decide
  have hiff := released_iff_not_stranded hrun hreturned hended hdrained
  refine ⟨hrun, hreturned, hended, hdrained, ?_, ?_⟩
  · by_contra hother
    have hreleased := released_iff_isHeld.mp ((hiff "a").mpr hother)
    exact absurd hreleased (by decide)
  · exact (hiff "b").mp (released_iff_isHeld.mpr (by decide))

/-- A shutdown need not release every topic, even if the transport accepts every
unsubscribe call. -/
theorem shutdown_leaves_topic :
    State.initial.run? refusedAgain = some afterRefusedAgain ∧
      (history refusedAgain).failed = [] ∧ afterRefusedAgain.stopRequested = true ∧
      afterRefusedAgain.worker = .ended ∧ (history refusedAgain).dropped = [] ∧
      (∀ e ∈ (history refusedAgain).answered,
        e.1.call = .unsubscribe e.1.call.topic → e.2 = .ok ()) ∧
      ¬ Released "a" (history refusedAgain).answered := by
  refine ⟨by decide, by decide, by decide, by decide, by decide, by decide, ?_⟩
  rw [released_iff_isHeld]
  decide

end DeviceLink.Session
