import DeviceLink.Client.Run
import DeviceLink.Proofs.Client.Call
import DeviceLink.Proofs.Session.Shutdown

/-!
# Only concrete topics reach the transport

A topic is looked at once, when a call is made.  After that the session hands it
around: from the queue into the table, from the table into the orders that bring
routes back or release them, and from the orders to the transport.  None of this
is looked at again, so the invariant (`Concrete`) follows every topic on its way.
The one thing that is never looked at is what a caller unsubscribes.
-/

namespace DeviceLink

open Session (State Submission Action Command Order History Routes history)

/-! ## Topics that are subscribed or published -/

def Session.Submission.usedTopic? : Submission → Option String
  | .subscribe topic _ => some topic
  | .publish topic _ _ => some topic
  | .unsubscribe _ => none
  | .dispatch _ _ => none
  | .resubscribe => none

def Session.Command.usedTopic? : Command → Option String
  | .subscribe topic _ _ => some topic
  | .publish topic _ _ _ => some topic
  | .unsubscribe _ _ => none
  | .dispatch _ _ => none
  | .resubscribe => none
  | .subscribeFailed _ _ => none

theorem Session.Submission.usedTopic?_command (what : Submission) (ack : Nat) :
    (what.command ack).usedTopic? = what.usedTopic? := by
  cases what <;> rfl

/-- An order for a concrete topic, or one that a caller asked for to unsubscribe. -/
def Session.Order.InOrder (order : Order) : Prop :=
  IsConcrete order.call.topic ∨
    ∃ topic ack, order = ⟨.unsubscribe topic, .caller ack, none⟩

namespace Client

variable {actions : List Action} {s t : State} {what : Submission} {topic : String} {qos : QoS}
  {issued : Issued}

/-! ## Calls -/

/-- The session takes a submission, and it is on a concrete topic if the topic is
to be used. -/
structure Takes (s : State) (what : Submission) (t : State) : Prop where
  step : s.step? (.submit what) = some t
  concrete : ∀ topic, what.usedTopic? = some topic → IsConcrete topic

theorem takes_of_subscribe (call : subscribe s topic qos = .ok issued) :
    issued.topic = topic ∧ Takes s (.subscribe topic qos) issued.session := by
  obtain ⟨hconcrete, hissue⟩ := subscribe_eq_ok_iff.mp call
  obtain ⟨hstep, -, htopic⟩ := Session.issue_eq_ok_iff.mp hissue
  exact ⟨htopic, hstep, fun topic hused => Option.some.inj hused ▸ hconcrete⟩

theorem takes_of_publish {α : Type} {format : Format α} {data : α} {payload : ByteArray}
    (written : format.write data = .ok payload)
    (call : publish format s topic data qos = .ok issued) :
    issued.topic = topic ∧ Takes s (.publish topic payload qos) issued.session := by
  obtain ⟨hconcrete, payload', hwritten, hissue⟩ := publish_eq_ok_iff.mp call
  obtain rfl := Except.ok.inj (written.symm.trans hwritten)
  obtain ⟨hstep, -, htopic⟩ := Session.issue_eq_ok_iff.mp hissue
  exact ⟨htopic, hstep, fun topic hused => Option.some.inj hused ▸ hconcrete⟩

theorem takes_of_submits (submits : Submits s what t) : Takes s what t := by
  cases submits with
  | subscribe call => exact (takes_of_subscribe call).2
  | unsubscribe call =>
      exact ⟨(Session.issue_eq_ok_iff.mp call).1, fun topic hused => absurd hused nofun⟩
  | publish written call => exact (takes_of_publish written call).2
  | subscribeAnswer call =>
      obtain ⟨topic, -, hsubscribe⟩ := exists_built call
      obtain ⟨rfl, htakes⟩ := takes_of_subscribe hsubscribe
      exact htakes
  | subscribeEvents call =>
      obtain ⟨topic, -, hsubscribe⟩ := exists_built call
      obtain ⟨rfl, htakes⟩ := takes_of_subscribe hsubscribe
      exact htakes
  | publishRequest call =>
      obtain ⟨topic, -, hpublish⟩ := exists_built call
      obtain ⟨rfl, htakes⟩ := takes_of_publish rfl hpublish
      exact htakes
  | dispatch call =>
      exact ⟨Session.submit_eq_ok_iff.mp call, fun topic hused => absurd hused nofun⟩
  | sessionRestored call =>
      exact ⟨Session.submit_eq_ok_iff.mp call, fun topic hused => absurd hused nofun⟩

theorem run?_of_run (run : Run actions s) : State.initial.run? actions = some s := by
  induction run with
  | start => rfl
  | call run hsubmits ih =>
      have hstep := State.step_of_step? (takes_of_submits hsubmits).step
      exact State.run?_concat.mpr ⟨_, ih, hstep⟩
  | step run hown hstep ih => exact State.run?_concat.mpr ⟨_, ih, State.step_of_step? hstep⟩

/-! ## The way of a topic -/

/-- Every topic that is on its way to the transport is concrete. -/
structure Concrete (h : History) (s : State) : Prop where
  commands : ∀ c ∈ s.commands, ∀ topic, c.usedTopic? = some topic → IsConcrete topic
  routes : ∀ e ∈ s.routes, IsConcrete e.1
  ordered : ∀ order ∈ h.ordered, order.InOrder

/-- Only a subscription puts a topic into the table. -/
theorem topic_mem_routesAfter {command : Command} {e : String × Session.Route}
    (listed : e ∈ s.routesAfter command) :
    (∃ old ∈ s.routes, old.1 = e.1) ∨ command.usedTopic? = some e.1 := by
  have hkept : ∀ topic, e ∈ s.routes.erase topic → ∃ old ∈ s.routes, old.1 = e.1 :=
    fun topic he => ⟨e, (List.mem_filter.mp he).1, rfl⟩
  cases command with
  | subscribe topic qos ack =>
      have hkey := Routes.keys_insert_subset _ _ _ (List.mem_map_of_mem listed)
      rcases List.mem_cons.mp hkey with htopic | hold
      · exact Or.inr (congrArg some htopic.symm)
      · exact Or.inl (List.mem_map.mp hold)
  | unsubscribe topic ack => exact Or.inl (hkept topic listed)
  | publish topic payload qos ack => exact Or.inl ⟨e, listed, rfl⟩
  | resubscribe => exact Or.inl ⟨e, listed, rfl⟩
  | dispatch topic payload =>
      rw [State.routesAfter] at listed
      split at listed
      · exact Or.inl (hkept topic listed)
      · exact Or.inl ⟨e, listed, rfl⟩
  | subscribeFailed topic id =>
      rw [State.routesAfter] at listed
      split at listed
      · exact Or.inl (hkept topic listed)
      · exact Or.inl ⟨e, listed, rfl⟩

namespace Concrete

variable {h : History}

theorem initial : Concrete {} .initial where
  commands := nofun
  routes := nofun
  ordered := nofun

/-- Orders come from a command, from a caller who unsubscribes, or from the table. -/
theorem ordersFor (concrete : Concrete h s) {command : Command}
    (front : command ∈ s.commands) : ∀ order ∈ s.ordersFor command, order.InOrder := by
  intro order hmade
  cases State.makes_of_mem hmade with
  | subscribe => exact Or.inl (concrete.commands _ front _ rfl)
  | publish => exact Or.inl (concrete.commands _ front _ rfl)
  | unsubscribe => exact Or.inr ⟨_, _, rfl⟩
  | dispatch hfound hclosed => exact Or.inl (concrete.routes _ (Routes.mem_of_get? hfound))
  | resubscribe hlisted => exact Or.inl (concrete.routes _ hlisted)

theorem releaseOrders (concrete : Concrete h s) :
    ∀ order ∈ State.releaseOrders s.routes, ∃ topic, order.call = .unsubscribe topic ∧
      IsConcrete topic := by
  intro order hmade
  obtain ⟨e, he, rfl⟩ := List.mem_map.mp hmade
  exact ⟨e.1, rfl, concrete.routes e he⟩

/-- A step keeps topics concrete if what it submits is. -/
theorem step {a : Action} (concrete : Concrete h s) (step : Session.Step s a t)
    (taken : ∀ what, a = .submit what →
      ∀ topic, what.usedTopic? = some topic → IsConcrete topic) :
    Concrete (h.extend s a) t := by
  obtain ⟨hcommands, hroutes, hordered⟩ := concrete
  cases step with
  | submit hopen =>
      refine ⟨fun c hc topic htopic => ?_, hroutes, hordered⟩
      rcases List.mem_append.mp hc with hc | hc
      · exact hcommands c hc topic htopic
      · obtain rfl := List.mem_singleton.mp hc
        rw [Submission.usedTopic?_command] at htopic
        exact taken _ rfl topic htopic
  | @handle command rest hactive hfront =>
      have hcommand : command ∈ s.commands := hfront ▸ List.mem_cons_self
      refine ⟨fun c hc => hcommands c (hfront ▸ List.mem_cons_of_mem _ hc), fun e he => ?_, ?_⟩
      · rcases topic_mem_routesAfter he with ⟨old, hold, htopic⟩ | hused
        · exact htopic ▸ hroutes old hold
        · exact hcommands command hcommand _ hused
      · simp only [History.extend, hfront]
        intro order horder
        rcases List.mem_append.mp horder with horder | hmade
        · exact hordered order horder
        · exact ordersFor ⟨hcommands, hroutes, hordered⟩ hcommand order hmade
  | finish hdraining hhandled =>
      refine ⟨hcommands, fun e he => absurd he List.not_mem_nil, fun order horder => ?_⟩
      rcases List.mem_append.mp horder with horder | hmade
      · exact hordered order horder
      · obtain ⟨topic, hcall, hconcrete⟩ :=
          releaseOrders ⟨hcommands, hroutes, hordered⟩ order hmade
        exact Or.inl (hcall ▸ hconcrete)
  | reorder hperm => exact ⟨hcommands, fun e he => hroutes e (hperm.mem_iff.mp he), hordered⟩
  | @answer order outcome hcalling =>
      -- The worker only adds reports of failure, and those use no topic.
      refine ⟨fun c hc topic htopic => ?_, hroutes, ?_⟩
      · by_cases hopen : s.isOpen = true
        · rw [if_pos hopen] at hc
          rcases List.mem_append.mp hc with hc | hc
          · exact hcommands c hc topic htopic
          · obtain ⟨id, error, -, -, rfl⟩ :=
              Session.refusal?_eq_some_iff.mp (Option.mem_toList.mp hc)
            exact absurd htopic.symm (Option.some_ne_none topic)
        · rw [if_neg hopen] at hc
          exact hcommands c hc topic htopic
      · simpa only [History.extend, hcalling] using hordered
  | start hidle hfront =>
      exact ⟨hcommands, hroutes, by simpa only [History.extend, hfront] using hordered⟩
  | settle hreporting =>
      exact ⟨hcommands, hroutes, by simpa only [History.extend, hreporting] using hordered⟩
  | @deliver inbox box item rest fails hfound hfront hlive =>
      cases fails <;> exact ⟨hcommands, hroutes, hordered⟩
  | _ => exact ⟨hcommands, hroutes, hordered⟩

end Concrete

/-- A run goes on by steps of the session's own. -/
theorem run_append {more : List Action} (run : Run actions s)
    (own : ∀ what, .submit what ∉ more) (goes : s.run? more = some t) :
    Run (actions ++ more) t := by
  induction more generalizing actions s with
  | nil =>
      obtain rfl := Option.some.inj goes
      rwa [List.append_nil]
  | cons a rest ih =>
      obtain ⟨u, hstep, hrest⟩ := Option.bind_eq_some_iff.mp goes
      have hfirst : Run (actions ++ [a]) u :=
        run.step (fun what hsubmit => own what (hsubmit ▸ List.mem_cons_self)) hstep
      have hlast := ih hfirst (fun what hmem => own what (List.mem_cons_of_mem _ hmem)) hrest
      rwa [List.append_assoc] at hlast

theorem concrete_of_run (run : Run actions s) : Concrete (history actions) s := by
  induction run with
  | start => exact Concrete.initial
  | call run hsubmits ih =>
      obtain ⟨hstep, hconcrete⟩ := takes_of_submits hsubmits
      rw [Session.history_concat (run?_of_run run) (State.step_of_step? hstep)]
      refine ih.step (State.step_of_step? hstep) ?_
      rintro what ⟨⟩
      exact hconcrete
  | step run hown hstep ih =>
      rw [Session.history_concat (run?_of_run run) (State.step_of_step? hstep)]
      exact ih.step (State.step_of_step? hstep) fun what hsubmit => absurd hsubmit (hown what)

end Client

/-- Whatever is called and whatever happens, the transport subscribes and
publishes to concrete topics only, the table holds no others, and the session
releases no others when it ends.  Of all orders that the session ever makes, only
those by which a caller unsubscribes a topic can be for another one. -/
theorem only_concrete_topics {actions : List Action} {s : State} (run : Client.Run actions s) :
    (∀ topic qos, .subscribe topic qos ∈ s.calls → IsConcrete topic) ∧
    (∀ topic payload qos, .publish topic payload qos ∈ s.calls → IsConcrete topic) ∧
    (∀ topic route, (topic, route) ∈ s.routes → IsConcrete topic) ∧
    (∀ t, s.step? .finish = some t → ∃ released, t.orders = s.orders ++ released ∧
      ∀ order ∈ released, ∃ topic, order.call = .unsubscribe topic ∧ IsConcrete topic) ∧
    s.calls <+: (history actions).ordered.map Order.call ∧
    (∀ order ∈ (history actions).ordered, IsConcrete order.call.topic ∨
      ∃ topic ack, order = ⟨.unsubscribe topic, .caller ack, none⟩) := by
  have hrun := Client.run?_of_run run
  have flows := Session.flows_of_run hrun
  have hconcrete := Client.concrete_of_run run
  have hcalls : s.calls <+: (history actions).ordered.map Order.call := by
    rw [flows.calls]
    exact flows.started.map Order.call
  -- A call is made for an order, and callers' own orders subscribe nothing.
  have hused : ∀ call ∈ s.calls, (∀ topic, call ≠ .unsubscribe topic) →
      IsConcrete call.topic := by
    intro call hcall hnot
    obtain ⟨order, horder, rfl⟩ := List.mem_map.mp (hcalls.subset hcall)
    rcases hconcrete.ordered order horder with htopic | ⟨topic, ack, rfl⟩
    · exact htopic
    · exact absurd rfl (hnot topic)
  refine ⟨fun topic qos hcall => ?_, fun topic payload qos hcall => ?_,
    fun topic route hroute => hconcrete.routes _ hroute, fun t hfinish => ?_, hcalls,
    hconcrete.ordered⟩
  · exact hused _ hcall nofun
  · exact hused _ hcall nofun
  · cases State.step_of_step? hfinish with
    | finish hdraining hhandled => exact ⟨_, rfl, hconcrete.releaseOrders⟩

/-- A caller subscribes a topic and unsubscribes a filter, and the connection is
lost once. -/
def filterCalls : List Action :=
  [.submit (.subscribe "a" .atLeastOnce), .submit (.unsubscribe "a/+"), .submit .resubscribe]

def filterSteps : List Action :=
  [.handle, .handle, .start, .answer (.ok ()), .settle, .handle, .start, .requestStop, .close]

def stateAfter (actions : List Action) : State := (State.initial.run? actions).getD .initial

theorem filter_is_only_unsubscribed :
    Client.Run (filterCalls ++ filterSteps) (stateAfter (filterCalls ++ filterSteps)) ∧
      (stateAfter (filterCalls ++ filterSteps)).calls =
        [.subscribe "a" .atLeastOnce, .unsubscribe "a/+"] ∧
      ¬ IsConcrete "a/+" ∧ IsConcrete "a" := by
  have hfirst : Client.subscribe .initial "a" .atLeastOnce =
      .ok ⟨stateAfter (filterCalls.take 1), 0, "a"⟩ := by rfl
  have hsecond : Client.unsubscribe (stateAfter (filterCalls.take 1)) "a/+" =
      .ok ⟨stateAfter (filterCalls.take 2), 1, "a/+"⟩ := by rfl
  have hthird : Client.sessionRestored (stateAfter (filterCalls.take 2)) false =
      .ok (stateAfter filterCalls) := by rfl
  have hcalls : Client.Run filterCalls (stateAfter filterCalls) :=
    ((Client.Run.start.call (.subscribe hfirst)).call (.unsubscribe hsecond)).call
      (.sessionRestored hthird)
  have hrun : Client.Run (filterCalls ++ filterSteps) (stateAfter (filterCalls ++ filterSteps)) :=
    Client.run_append hcalls (by simp [filterSteps]) (by decide)
  have hmade : (stateAfter (filterCalls ++ filterSteps)).calls =
      [.subscribe "a" .atLeastOnce, .unsubscribe "a/+"] := by decide
  have hfilter : ¬ IsConcrete "a/+" := fun hconcrete => (hconcrete.plain '+' (by decide)).1 rfl
  obtain ⟨hsubscribed, -⟩ := only_concrete_topics hrun
  exact ⟨hrun, hmade, hfilter, hsubscribed "a" .atLeastOnce (by rw [hmade]; decide)⟩

end DeviceLink
