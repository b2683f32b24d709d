import DeviceLink.Proofs.Session.History

/-!
# Subscriptions and the routes they hold

The `n`-th `subscribe` command that the manager performs makes subscription
`n`: it gets inbox `n`, the id `subscriptionId n`, and the route of its topic.
It keeps that route until a later command ends it, and whether one has can be
read off the commands alone (`Holds`).  As long as every handler returns, the
table of a manager that has not ended lists exactly the routes that are held
(`Registered`).
-/

namespace DeviceLink.Session

/-- Whether a command ends the route that the subscription with the given id has
for a topic. -/
def Command.endsRoute (topic : String) (id : UInt64) : Command → Bool
  | subscribe t _ _ => t = topic
  | unsubscribe t _ => t = topic
  | subscribeFailed t i => t = topic && i = id
  | _ => false

/-- The number of subscriptions that some commands make. -/
def subscriptions (commands : List Command) : Nat := commands.countP Command.isSubscribe

/-- The id of a subscription by its number. -/
def subscriptionId (n : Nat) : UInt64 := UInt64.ofNat n

/-- After these commands the topic has this route: some subscription got it, and
nothing has ended it since. -/
def Holds (commands : List Command) (topic : String) (route : Route) : Prop :=
  ∃ before ack after, commands = before ++ .subscribe topic route.qos ack :: after ∧
    route.inbox = subscriptions before ∧ route.id = subscriptionId (subscriptions before) ∧
    ∀ c ∈ after, c.endsRoute topic route.id = false

theorem subscriptions_concat (commands : List Command) (c : Command) :
    subscriptions (commands ++ [c]) = subscriptions commands + if c.isSubscribe then 1 else 0 := by
  unfold subscriptions
  rw [List.countP_append, List.countP_singleton]

theorem subscriptions_append_cons (before after : List Command) (topic : String) (qos : QoS)
    (ack : Nat) : subscriptions (before ++ .subscribe topic qos ack :: after) =
      subscriptions before + 1 + subscriptions after := by
  unfold subscriptions
  rw [List.countP_append, List.countP_cons_of_pos rfl]
  omega

/-- How a longer list of commands splits at one of them. -/
theorem concat_eq_split {α : Type} {xs before after : List α} {c x : α}
    (h : xs ++ [c] = before ++ x :: after) :
    (after = [] ∧ before = xs ∧ x = c) ∨
      ∃ rest, after = rest ++ [c] ∧ xs = before ++ x :: rest := by
  rcases List.eq_nil_or_concat after with rfl | ⟨rest, last, rfl⟩
  · obtain ⟨hxs, hx⟩ := List.append_inj' h rfl
    exact Or.inl ⟨rfl, hxs.symm, (List.cons.inj hx).1.symm⟩
  · rw [List.concat_eq_append, ← List.cons_append, ← List.append_assoc] at h
    obtain ⟨hxs, hlast⟩ := List.append_inj' h rfl
    obtain rfl := (List.cons.inj hlast).1
    exact Or.inr ⟨rest, List.concat_eq_append, hxs⟩

/-- A subscription's number determines the command that made it. -/
theorem subscribe_unique {before before' after after' : List Command} {c c' : Command}
    (h : before ++ c :: after = before' ++ c' :: after') (hc : c.isSubscribe = true)
    (hc' : c'.isSubscribe = true) (number : subscriptions before = subscriptions before') :
    before = before' ∧ c = c' ∧ after = after' := by
  -- On the two prefixes at once: while their counts agree they pass the same commands.
  induction before generalizing before' with
  | nil =>
      cases before' with
      | nil =>
          obtain ⟨hhead, htail⟩ := List.cons.inj h
          exact ⟨rfl, hhead, htail⟩
      | cons d rest =>
          obtain ⟨rfl, -⟩ := List.cons.inj h
          simp [subscriptions, hc] at number
  | cons d rest ih =>
      cases before' with
      | nil =>
          obtain ⟨rfl, -⟩ := List.cons.inj h
          simp [subscriptions, hc'] at number
      | cons d' rest' =>
          obtain ⟨rfl, htail⟩ := List.cons.inj h
          have hrest : subscriptions rest = subscriptions rest' := by
            simpa [subscriptions, List.countP_cons] using number
          obtain ⟨rfl, hcc, hafter⟩ := ih htail hrest
          exact ⟨rfl, hcc, hafter⟩

namespace Holds

variable {commands : List Command} {c : Command} {topic other : String} {route : Route}

/-- One more command: the subscription of a route still holds it unless the
command ends it, and a `subscribe` makes a new holder. -/
theorem concat_iff : Holds (commands ++ [c]) topic route ↔
    (Holds commands topic route ∧ c.endsRoute topic route.id = false) ∨
      ∃ qos ack, c = .subscribe topic qos ack ∧
        route = ⟨subscriptionId (subscriptions commands), qos, subscriptions commands⟩ := by
  constructor
  · rintro ⟨before, ack, after, hsplit, hinbox, hid, hafter⟩
    rcases concat_eq_split hsplit with ⟨rfl, rfl, rfl⟩ | ⟨rest, rfl, rfl⟩
    · refine Or.inr ⟨route.qos, ack, rfl, ?_⟩
      rw [← hid, ← hinbox]
    · refine Or.inl ⟨⟨before, ack, rest, rfl, hinbox, hid, ?_⟩, hafter c (by simp)⟩
      exact fun d hd => hafter d (List.mem_append_left _ hd)
  · rintro (⟨⟨before, ack, after, rfl, hinbox, hid, hafter⟩, hkeeps⟩ | ⟨qos, ack, rfl, rfl⟩)
    · refine ⟨before, ack, after ++ [c], by simp, hinbox, hid, ?_⟩
      intro d hd
      rcases List.mem_append.mp hd with hd | hd
      · exact hafter d hd
      · exact List.mem_singleton.mp hd ▸ hkeeps
    · exact ⟨commands, ack, [], rfl, rfl, rfl, fun d hd => absurd hd List.not_mem_nil⟩

/-- Only the subscription that a command made holds the route of its number. -/
theorem of_split {before after : List Command} {qos : QoS} {ack : Nat}
    (holds : Holds (before ++ .subscribe other qos ack :: after) topic route)
    (number : route.inbox = subscriptions before) :
    topic = other ∧ route = ⟨subscriptionId (subscriptions before), qos, subscriptions before⟩ ∧
      ∀ c ∈ after, c.endsRoute other (subscriptionId (subscriptions before)) = false := by
  obtain ⟨before', ack', after', hsplit, hinbox, hid, hafter⟩ := holds
  obtain ⟨rfl, hcommand, rfl⟩ := subscribe_unique hsplit rfl rfl (number.symm.trans hinbox)
  obtain ⟨rfl, hqos, -⟩ := Command.subscribe.inj hcommand
  rw [hid] at hafter
  refine ⟨rfl, ?_, hafter⟩
  rw [hqos, ← hid, ← number]

theorem inbox_lt (holds : Holds commands topic route) : route.inbox < subscriptions commands := by
  obtain ⟨before, ack, after, rfl, hinbox, -, -⟩ := holds
  rw [subscriptions_append_cons, hinbox]
  omega

theorem id_eq (holds : Holds commands topic route) : route.id = subscriptionId route.inbox := by
  obtain ⟨before, ack, after, -, hinbox, hid, -⟩ := holds
  rw [hid, hinbox]

end Holds

/-! ## The table -/

/-- A message for a topic whose handler's task is gone ends the route as well. -/
def State.losesRoute (s : State) (command : Command) (topic : String) (route : Route) : Prop :=
  s.isInboxOpen route.inbox = false ∧ ∃ payload, command = .dispatch topic payload

theorem State.get?_routesAfter (s : State) (command : Command) (topic : String) (route : Route) :
    (s.routesAfter command).get? topic = some route ↔
      (s.routes.get? topic = some route ∧ command.endsRoute topic route.id = false ∧
        ¬ s.losesRoute command topic route) ∨
      ∃ qos ack, command = .subscribe topic qos ack ∧
        route = ⟨s.nextId, qos, s.inboxes.length⟩ := by
  unfold State.losesRoute
  cases command with
  | subscribe t qos ack =>
      rw [State.routesAfter, Routes.get?_insert]
      by_cases ht : topic = t
      · subst ht
        rw [if_pos rfl, Option.some.injEq]
        constructor
        · rintro rfl
          exact Or.inr ⟨qos, ack, rfl, rfl⟩
        · rintro (⟨-, hkeeps, -⟩ | ⟨qos', ack', hcommand, rfl⟩)
          · simp [Command.endsRoute] at hkeeps
          · obtain ⟨-, rfl, -⟩ := Command.subscribe.inj hcommand
            rfl
      · simp [Command.endsRoute, ht, Ne.symm ht]
  | unsubscribe t ack =>
      rw [State.routesAfter, Routes.get?_erase]
      by_cases ht : topic = t
      · simp [Command.endsRoute, ht]
      · simp [Command.endsRoute, ht, Ne.symm ht]
  | publish t payload qos ack => simp [State.routesAfter, Command.endsRoute]
  | resubscribe => simp [State.routesAfter, Command.endsRoute]
  | subscribeFailed t id =>
      rw [State.routesAfter, Routes.get?_erase_if]
      by_cases ht : t = topic
      · simp [Command.endsRoute, ht, @eq_comm _ id route.id]
      · simp [Command.endsRoute, ht, Ne.symm ht]
  | dispatch t payload =>
      rw [State.routesAfter, Routes.get?_erase_if]
      by_cases ht : t = topic
      · simp [Command.endsRoute, ht]
      · simp [Command.endsRoute, ht, Ne.symm ht]

theorem State.onePerTopic_routesAfter {s : State} (one : s.routes.OnePerTopic)
    (command : Command) : (s.routesAfter command).OnePerTopic := by
  cases command with
  | subscribe topic qos ack => exact one.insert
  | unsubscribe topic ack => exact one.erase
  | publish topic payload qos ack => exact one
  | resubscribe => exact one
  | subscribeFailed topic id =>
      rw [State.routesAfter]
      split
      · exact one.erase
      · exact one
  | dispatch topic payload =>
      rw [State.routesAfter]
      split
      · exact one.erase
      · exact one

theorem State.isInboxOpen_eq {s : State} {inbox : Nat} {box : Inbox}
    (found : s.inboxes[inbox]? = some box) : s.isInboxOpen inbox = box.live := by
  simp [State.isInboxOpen, found]

/-- The table lists the routes that are held. -/
structure Registered (h : History) (s : State) : Prop where
  inboxes : s.inboxes.length = subscriptions h.handled
  nextId : s.nextId = subscriptionId (subscriptions h.handled)
  onePerTopic : s.routes.OnePerTopic
  held : ∀ topic route, s.routes.get? topic = some route → Holds h.handled topic route
  /-- Only a handler that does not return closes its inbox. -/
  live : h.failed = [] → ∀ (n : Nat) (box : Inbox), s.inboxes[n]? = some box → box.live = true
  listed : h.failed = [] → s.phase ≠ .ended → ∀ topic route, Holds h.handled topic route →
    s.routes.get? topic = some route

namespace Registered

variable {h : History} {s t : State} {a : Action}

theorem initial : Registered {} .initial where
  inboxes := rfl
  nextId := rfl
  onePerTopic := List.nodup_nil
  held := fun _ _ hroute => absurd hroute (by simp [State.initial, Routes.get?])
  live := fun _ _ _ hbox => absurd hbox (by simp [State.initial])
  listed := fun _ _ _ _ ⟨_, _, _, hsplit, _⟩ => absurd hsplit (by simp)

/-- A route in the table leads to an inbox. -/
theorem exists_inbox (reg : Registered h s) {topic : String} {route : Route}
    (found : s.routes.get? topic = some route) : ∃ box, s.inboxes[route.inbox]? = some box := by
  have hlt := (reg.held topic route found).inbox_lt
  rw [← reg.inboxes] at hlt
  exact ⟨_, List.getElem?_eq_getElem hlt⟩

theorem not_losesRoute (reg : Registered h s) (returned : h.failed = []) {command : Command}
    {topic : String} {route : Route} (found : s.routes.get? topic = some route) :
    ¬ s.losesRoute command topic route := by
  rintro ⟨hclosed, -⟩
  obtain ⟨box, hbox⟩ := reg.exists_inbox found
  rw [State.isInboxOpen_eq hbox, reg.live returned _ _ hbox] at hclosed
  exact absurd hclosed (by simp)

theorem live_inboxesAfter (reg : Registered h s) (returned : h.failed = []) (command : Command)
    {n : Nat} {box : Inbox} (found : (s.inboxesAfter command)[n]? = some box) :
    box.live = true := by
  by_cases hold : n < s.inboxes.length
  · rw [State.getElem?_inboxesAfter command hold] at found
    obtain ⟨old, hbox, rfl⟩ := Option.map_eq_some_iff.mp found
    rw [Inbox.put_live]
    exact reg.live returned n old hbox
  · cases command with
    | subscribe topic qos ack =>
        -- The inbox is the new one, and that is open.
        obtain ⟨_, hbox⟩ := List.getElem?_eq_some_iff.mp found
        have hlen : n < s.inboxes.length + 1 := by
          simpa [State.length_inboxesAfter, Command.isSubscribe] using
            (List.getElem?_eq_some_iff.mp found).1
        have hlast : n = s.inboxes.length := by omega
        subst hlast
        simp [State.inboxesAfter] at found
        exact found ▸ rfl
    | _ =>
        have hlen := (List.getElem?_eq_some_iff.mp found).1
        simp [State.length_inboxesAfter, Command.isSubscribe] at hlen
        exact absurd hlen hold

theorem handle (reg : Registered h s) {command : Command} {rest : List Command}
    (active : s.phase ≠ .ended) (front : s.commands = command :: rest) :
    Registered (h.extend s .handle) { s with
      commands := rest
      routes := s.routesAfter command
      inboxes := s.inboxesAfter command
      orders := s.orders ++ s.ordersFor command
      nextId := s.nextIdAfter command } := by
  simp only [History.extend, front]
  refine ⟨?_, ?_, State.onePerTopic_routesAfter reg.onePerTopic command, ?_, ?_, ?_⟩
  · rw [State.length_inboxesAfter, subscriptions_concat, reg.inboxes]
  · rw [subscriptions_concat]
    cases command with
    | subscribe topic qos ack =>
        -- The counter wraps around where `subscriptionId` does.
        show s.nextId + 1 = UInt64.ofNat (subscriptions h.handled + 1)
        rw [reg.nextId, subscriptionId, UInt64.ofNat_add]
        rfl
    | _ => exact reg.nextId
  · intro topic route hroute
    rw [Holds.concat_iff]
    rcases (s.get?_routesAfter command topic route).mp hroute with
      ⟨hold, hkeeps, -⟩ | ⟨qos, ack, rfl, rfl⟩
    · exact Or.inl ⟨reg.held topic route hold, hkeeps⟩
    · exact Or.inr ⟨qos, ack, rfl, by rw [reg.nextId, reg.inboxes]⟩
  · intro returned n box hbox
    exact reg.live_inboxesAfter returned command hbox
  · intro returned _ topic route hholds
    rw [State.get?_routesAfter]
    rcases Holds.concat_iff.mp hholds with ⟨hold, hkeeps⟩ | ⟨qos, ack, rfl, rfl⟩
    · have hfound := reg.listed returned active topic route hold
      exact Or.inl ⟨hfound, hkeeps, reg.not_losesRoute returned hfound⟩
    · exact Or.inr ⟨qos, ack, rfl, by rw [reg.nextId, reg.inboxes]⟩

theorem live_toldInboxes (reg : Registered h s) (returned : h.failed = []) (endings : List Ending)
    {n : Nat} {box : Inbox} (found : (State.toldInboxes s.inboxes endings)[n]? = some box) :
    box.live = true := by
  rw [State.getElem?_toldInboxes] at found
  obtain ⟨old, hbox, rfl⟩ := Option.map_eq_some_iff.mp found
  rw [Inbox.put_live]
  exact reg.live returned n old hbox

/-- A handler that returns leaves its inbox open. -/
theorem deliver (reg : Registered h s) {inbox : Nat} {fails : Bool}
    (step : Step s (.deliver inbox fails) t) :
    Registered (h.extend s (.deliver inbox fails)) t := by
  cases step with
  | @deliver _ box item rest _ hfound hfront hbox =>
      have hinboxes : ∀ b, (s.inboxes.set inbox b).length = subscriptions h.handled :=
        fun b => List.length_set.trans reg.inboxes
      cases fails with
      | true =>
          refine ⟨hinboxes _, reg.nextId, reg.onePerTopic, reg.held, ?_, ?_⟩
          · exact fun returned => absurd returned (by simp [History.extend])
          · exact fun returned => absurd returned (by simp [History.extend])
      | false =>
          refine ⟨hinboxes _, reg.nextId, reg.onePerTopic, reg.held, ?_, reg.listed⟩
          intro returned n other hother
          rw [List.getElem?_set] at hother
          by_cases hn : inbox = n
          · subst hn
            rw [if_pos rfl, if_pos (List.getElem?_eq_some_iff.mp hfound).1] at hother
            exact Option.some.inj hother ▸ rfl
          · rw [if_neg hn] at hother
            exact reg.live returned n other hother

theorem step (reg : Registered h s) (step : Step s a t) : Registered (h.extend s a) t := by
  obtain ⟨hinboxes, hnext, hone, hheld, hlive, hlisted⟩ := id reg
  cases step with
  | handle hactive hfront => exact reg.handle hactive hfront
  | submit hopen => exact ⟨hinboxes, hnext, hone, hheld, hlive, hlisted⟩
  | requestStop => exact ⟨hinboxes, hnext, hone, hheld, hlive, hlisted⟩
  | dropCallers => exact ⟨hinboxes, hnext, hone, hheld, hlive, hlisted⟩
  | endWorker hended hidle hdone => exact ⟨hinboxes, hnext, hone, hheld, hlive, hlisted⟩
  | start hidle hfront =>
      simp only [History.extend, hfront]
      exact ⟨hinboxes, hnext, hone, hheld, hlive, hlisted⟩
  | answer hcalling =>
      simp only [History.extend, hcalling]
      exact ⟨hinboxes, hnext, hone, hheld, hlive, hlisted⟩
  | close hrunning hstops =>
      refine ⟨hinboxes, hnext, hone, hheld, hlive, fun returned _ => hlisted returned ?_⟩
      simp [hrunning]
  | finish hdraining hhandled =>
      refine ⟨hinboxes, hnext, List.nodup_nil, ?_, hlive, fun _ hactive => absurd rfl hactive⟩
      intro topic route hroute
      exact absurd hroute (by simp [Routes.get?])
  | reorder hperm =>
      refine ⟨hinboxes, hnext, hone.perm hperm, ?_, hlive, ?_⟩
      · intro topic route hroute
        exact hheld topic route (hone.get?_perm hperm ▸ hroute)
      · intro returned hactive topic route hholds
        rw [hone.get?_perm hperm]
        exact hlisted returned hactive topic route hholds
  | settle hreporting =>
      simp only [History.extend, hreporting]
      refine ⟨?_, hnext, hone, hheld, ?_, hlisted⟩
      · rw [State.length_toldInboxes, hinboxes]
      · exact fun returned n box => reg.live_toldInboxes returned _
  | abort hended hwaiting =>
      refine ⟨?_, hnext, hone, hheld, ?_, hlisted⟩
      · rw [State.length_toldInboxes, hinboxes]
        rfl
      · exact fun returned n box => reg.live_toldInboxes returned _
  | deliver hfound hfront hbox => exact reg.deliver (.deliver hfound hfront hbox)

end Registered

theorem registered_of_run {actions : List Action} {s : State}
    (run : State.initial.run? actions = some s) : Registered (history actions) s :=
  history_induction Registered.initial (fun _ => Registered.step) run

end DeviceLink.Session
