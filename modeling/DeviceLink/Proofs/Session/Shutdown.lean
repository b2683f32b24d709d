import DeviceLink.Client.Call
import DeviceLink.Proofs.Session.Refusal

/-!
# What a stop leaves undone

A manager that is told to stop closes its queue at some later time, with any
number of commands still in it and more coming until then.  None of them is lost
and none is handled twice: the manager takes each command out of the queue once
and performs it (`performs_of_run`), and when it has ended, the callers' commands
among those that it has performed are those of the calls that were accepted, in
their order (`callers_entered`).  Then it releases the routes that are left
(`releases_of_finish`), and that is the last it asks of the transport
(`allCalls_run`).  A queue that is closed stays closed, so later calls reach
nobody (`closed_run`).
-/

namespace DeviceLink.Session

/-! ## What callers have asked for -/

def Action.submission? : Action → Option Submission
  | .submit what => some what
  | _ => none

/-- What callers have asked for in a run.  A call that is refused is no step of
the run. -/
def submissions (actions : List Action) : List Submission :=
  actions.filterMap Action.submission?

/-- The commands of some submissions; every request takes the next
acknowledgement. -/
def commandsFrom (ack : Nat) : List Submission → List Command
  | [] => []
  | what :: rest =>
    what.command ack :: commandsFrom (if what.isRequest then ack + 1 else ack) rest

/-- The commands that come from callers; the others are failure reports. -/
def callers (commands : List Command) : List Command :=
  commands.filter fun c => !c.isFailure

theorem callers_append (commands more : List Command) :
    callers (commands ++ more) = callers commands ++ callers more :=
  List.filter_append ..

theorem callers_submission (what : Submission) (ack : Nat) :
    callers [what.command ack] = [what.command ack] := by
  cases what <;> rfl

theorem callers_refusal? (order : Order) (outcome : Outcome) :
    callers (State.refusal? order outcome).toList = [] := by
  cases hrefusal : State.refusal? order outcome with
  | none => rfl
  | some command =>
      obtain ⟨id, error, -, -, rfl⟩ := refusal?_eq_some_iff.mp hrefusal
      rfl

theorem commandsFrom_concat (ack : Nat) (asked : List Submission) (what : Submission) :
    commandsFrom ack (asked ++ [what]) =
      commandsFrom ack asked ++ [what.command (ack + asked.countP Submission.isRequest)] := by
  induction asked generalizing ack with
  | nil => rfl
  | cons first rest ih =>
      rw [List.cons_append, commandsFrom, commandsFrom, ih, List.countP_cons, List.cons_append]
      cases first.isRequest with
      | true => simp [Nat.add_comm, Nat.add_left_comm]
      | false => simp

/-- A step puts the command of its submission into the queue, if it has one; the
worker only adds failure reports. -/
theorem callers_extend (h : History) {s t : State} {a : Action} (step : Step s a t) :
    callers (h.extend s a).entered =
        callers h.entered ++ (a.submission?.map (·.command s.acks.length)).toList ∧
      t.acks.length = s.acks.length + if a.submission?.any Submission.isRequest then 1 else 0 := by
  cases step with
  | @submit what hopen =>
      refine ⟨?_, ?_⟩
      · rw [History.extend, callers_append, callers_submission]
        rfl
      · show (if what.isRequest then s.acks ++ [none] else s.acks).length = _
        cases hrequest : what.isRequest <;> simp [Action.submission?, hrequest]
  | answer hcalling =>
      simp only [History.extend, hcalling]
      refine ⟨?_, rfl⟩
      show callers (if s.isOpen then _ else _) = callers h.entered ++ []
      split
      · rw [callers_append, callers_refusal?]
      · rw [List.append_nil]
  | handle hactive hfront => simp [History.extend, hfront, Action.submission?]
  | start hidle hfront => simp [History.extend, hfront, Action.submission?]
  | settle hreporting => simp [History.extend, hreporting, Action.submission?]
  | @deliver inbox box item rest fails hfound hfront hlive =>
      cases fails <;> simp [History.extend, Action.submission?]
  | _ => simp [History.extend, Action.submission?]

theorem callers_entered {actions : List Action} {s : State}
    (run : State.initial.run? actions = some s) :
    callers (history actions).entered = commandsFrom 0 (submissions actions) ∧
      s.acks.length = (submissions actions).countP Submission.isRequest := by
  refine @State.run_induction _ _ (fun actions s =>
    callers (history actions).entered = commandsFrom 0 (submissions actions) ∧
      s.acks.length = (submissions actions).countP Submission.isRequest)
    ⟨rfl, rfl⟩ ?_ _ run
  intro actions a u t hrun ⟨hentered, hacks⟩ hstep
  obtain ⟨hnext, hmore⟩ := callers_extend (history actions) hstep
  have hasked : submissions (actions ++ [a]) = submissions actions ++ a.submission?.toList := by
    rw [submissions, List.filterMap_append]
    cases hsubmission : a.submission? <;> simp [submissions, hsubmission]
  rw [history_concat hrun hstep, hnext, hmore, hentered, hacks, hasked]
  cases a.submission? with
  | none => simp
  | some what =>
      refine ⟨?_, ?_⟩
      · rw [Option.toList_some, commandsFrom_concat, Nat.zero_add]
        rfl
      · rw [List.countP_append, Option.toList_some, List.countP_singleton]
        rfl

/-! ## What the manager performs -/

/-- A run in which the manager takes these commands out of the queue, one at a time,
and makes of the table, the inboxes and the orders what each of them asks for. -/
inductive Performs : State → List Action → State → List Command → Prop
  | done {s : State} : Performs s [] s []
  | handle {s t u : State} {command : Command} {later : List Action} {commands : List Command}
      (taken : s.step? .handle = some t) (front : s.commands = command :: t.commands)
      (routes : t.routes = s.routesAfter command)
      (inboxes : t.inboxes = s.inboxesAfter command)
      (orders : t.orders = s.orders ++ s.ordersFor command)
      (rest : Performs t later u commands) :
      Performs s (.handle :: later) u (command :: commands)
  | other {s t u : State} {a : Action} {later : List Action} {commands : List Command}
      (other : a ≠ .handle) (taken : s.step? a = some t) (rest : Performs t later u commands) :
      Performs s (a :: later) u commands

theorem handled_of_step (h : History) {s t : State} {a : Action} (step : Step s a t)
    (other : a ≠ .handle) : (h.extend s a).handled = h.handled := by
  rcases manager_step h step with
    ⟨command, rest, -, -, hhandle, -⟩ | ⟨-, rfl, -⟩ | ⟨hhandled, -, -⟩
  · exact absurd hhandle other
  · rfl
  · exact hhandled

theorem performs_along (h : History) {s t : State} {actions : List Action}
    (run : s.run? actions = some t) : ∃ commands, Performs s actions t commands ∧
      (h.along s actions).handled = h.handled ++ commands := by
  induction actions generalizing h s with
  | nil =>
      obtain rfl := Option.some.inj run
      exact ⟨[], .done, (List.append_nil _).symm⟩
  | cons a rest ih =>
      obtain ⟨u, hstep, hrun⟩ := Option.bind_eq_some_iff.mp run
      obtain ⟨commands, hperforms, hhandled⟩ := ih (h.extend s a) hrun
      simp only [History.along, hstep, hhandled]
      -- Only the manager's own steps take commands, and each takes the one at the front.
      by_cases hhandle : a = .handle
      · subst hhandle
        cases State.step_of_step? hstep with
        | @handle command queue hactive hfront =>
            refine ⟨command :: commands, .handle hstep hfront rfl rfl rfl hperforms, ?_⟩
            simp [History.extend, hfront]
      · refine ⟨commands, .other hhandle hstep hperforms, ?_⟩
        rw [handled_of_step h (State.step_of_step? hstep) hhandle]

theorem performs_of_run {actions : List Action} {s : State}
    (run : State.initial.run? actions = some s) :
    Performs .initial actions s (history actions).handled := by
  obtain ⟨commands, hperforms, hhandled⟩ := performs_along {} run
  rwa [history, hhandled]

/-! ## How a manager ends -/

/-- The table of a manager that has ended is empty. -/
theorem routes_of_ended {actions : List Action} {s : State}
    (run : State.initial.run? actions = some s) (ended : s.phase = .ended) : s.routes = [] := by
  refine @State.run_induction _ _ (fun _ s => s.phase = .ended → s.routes = [])
    (fun hended => absurd hended (by simp [State.initial])) ?_ _ run ended
  intro actions a u t hrun ih hstep hended
  cases hstep with
  | finish hdraining hhandled => rfl
  | handle hactive hfront => exact absurd hended hactive
  | close hrunning hstops => exact absurd hended (by simp)
  | reorder hperm =>
      rw [ih hended] at hperm
      exact hperm.eq_nil
  | _ => exact ih hended

/-- A manager that has ended did so with one step, and has handled nothing since. -/
theorem ended_by_finish {actions : List Action} {s : State}
    (run : State.initial.run? actions = some s) (ended : s.phase = .ended) :
    ∃ early late u v, actions = early ++ .finish :: late ∧
      State.initial.run? early = some u ∧ Step u .finish v ∧ v.run? late = some s ∧
      (history actions).handled = (history early).handled := by
  refine @State.run_induction _ _ (fun actions s => s.phase = .ended →
    ∃ early late u v, actions = early ++ .finish :: late ∧
      State.initial.run? early = some u ∧ Step u .finish v ∧ v.run? late = some s ∧
      (history actions).handled = (history early).handled)
    (fun hended => absurd hended (by simp [State.initial])) ?_ _ run ended
  intro actions a u t hrun ih hstep hended
  rw [history_concat hrun hstep]
  rcases manager_step (history actions) hstep with
    ⟨command, rest, hactive, -, rfl, rfl⟩ | ⟨-, rfl, -⟩ | ⟨hhandled, -, hphase⟩
  · exact absurd hended hactive
  · exact ⟨actions, [], u, t, rfl, hrun, hstep, rfl, rfl⟩
  · obtain ⟨early, late, v, w, rfl, hearly, hfinish, hlate, hkept⟩ := ih (hphase.mp hended)
    exact ⟨early, late ++ [a], v, w, by simp, hearly, hfinish,
      State.run?_concat.mpr ⟨u, hlate, hstep⟩, hhandled.trans hkept⟩

/-- The step with which a manager ends.  It has handled everything, orders that each
topic with a route is unsubscribed, and does nothing else. -/
structure Releases (u v : State) : Prop where
  taken : u.step? .finish = some v
  handled : u.commands = []
  onePerTopic : u.routes.OnePerTopic
  orders : v.orders = u.orders ++ u.routes.map fun e => ⟨.unsubscribe e.1, .nobody, none⟩
  routes : v.routes = []
  inboxes : v.inboxes = u.inboxes
  acks : v.acks = u.acks
  calls : v.calls = u.calls

theorem releases_of_finish {actions : List Action} {u v : State}
    (run : State.initial.run? actions = some u) (step : Step u .finish v) : Releases u v := by
  have htaken := State.step?_of_step step
  have hone := (registered_of_run run).onePerTopic
  cases step with
  | finish hdraining hhandled => exact ⟨htaken, hhandled, hone, rfl, rfl, rfl, rfl, rfl⟩

/-- The calls that the transport has seen, and those that it is still to see. -/
def State.allCalls (s : State) : List TransportCall := s.calls ++ s.orders.map Order.call

/-- Once the manager has ended nothing more is asked of the transport.  What has been
asked is called, unless the worker is cut off. -/
theorem allCalls_step {s t : State} {a : Action} (ended : s.phase = .ended) (step : Step s a t) :
    t.phase = .ended ∧ t.allCalls <+: s.allCalls ∧
      (a ≠ .abortWorker → t.allCalls = s.allCalls) := by
  cases step with
  | handle hactive hfront => exact absurd ended hactive
  | close hrunning hstops => exact absurd (hrunning.symm.trans ended) (by simp)
  | finish hdraining hhandled => exact absurd (hdraining.symm.trans ended) (by simp)
  | @start order rest hidle hfront =>
      have hsame : (s.calls ++ [order.call]) ++ rest.map Order.call = s.allCalls := by
        simp [State.allCalls, hfront]
      exact ⟨ended, hsame ▸ List.prefix_refl _, fun _ => hsame⟩
  | abort hended hwaiting =>
      -- What waits is dropped, so the calls stay a beginning of what they were to be.
      refine ⟨ended, ?_, fun hother => absurd rfl hother⟩
      simp [State.allCalls]
  | _ => exact ⟨ended, List.prefix_refl _, fun _ => rfl⟩

theorem allCalls_run {s t : State} {later : List Action} (ended : s.phase = .ended)
    (run : s.run? later = some t) : t.phase = .ended ∧ t.allCalls <+: s.allCalls ∧
      (.abortWorker ∉ later → t.allCalls = s.allCalls) := by
  refine @State.run_induction _ _ (fun later t => t.phase = .ended ∧ t.allCalls <+: s.allCalls ∧
    (.abortWorker ∉ later → t.allCalls = s.allCalls))
    ⟨ended, List.prefix_refl _, fun _ => rfl⟩ ?_ _ run
  intro later a u t hrun ⟨hended, hprefix, hsame⟩ hstep
  obtain ⟨hstays, hless, hkept⟩ := allCalls_step hended hstep
  refine ⟨hstays, hless.trans hprefix, fun hfinishes => ?_⟩
  rw [List.mem_append, List.mem_singleton, not_or] at hfinishes
  exact (hkept (Ne.symm hfinishes.2)).trans (hsame hfinishes.1)

theorem run?_of_step {s u : State} {a : Action} (step : Step s a u) (rest : List Action) :
    s.run? (a :: rest) = u.run? rest := by
  rw [State.run?, State.step?_of_step step]
  rfl

/-- A manager that has not ended can handle every command in its queue. -/
theorem handles_rest {s : State} {queue : List Command} (active : s.phase ≠ .ended)
    (waiting : s.commands = queue) :
    ∃ t, s.run? (List.replicate queue.length .handle) = some t ∧ t.commands = [] ∧
      t.phase = s.phase ∧ t.stopRequested = s.stopRequested ∧ t.hasCallers = s.hasCallers := by
  induction queue generalizing s with
  | nil => exact ⟨s, rfl, waiting, rfl, rfl, rfl⟩
  | cons command rest ih =>
      have hstep := Step.handle active waiting
      obtain ⟨t, hrun, hnone, hphase, hstop, hcallers⟩ := @ih { s with
        commands := rest
        routes := s.routesAfter command
        inboxes := s.inboxesAfter command
        orders := s.orders ++ s.ordersFor command
        nextId := s.nextIdAfter command } active rfl
      refine ⟨t, ?_, hnone, hphase, hstop, hcallers⟩
      rw [List.length_cons, List.replicate_succ, run?_of_step hstep]
      exact hrun

/-- A manager with an empty queue ends when it has been told to. -/
theorem ends_when_empty {s : State} (active : s.phase ≠ .ended) (handled : s.commands = [])
    (told : s.phase = .draining ∨ s.stopRequested = true ∨ s.hasCallers = false) :
    ∃ more t, s.run? more = some t ∧ t.phase = .ended ∧ ∀ a ∈ more, a = .close ∨ a = .finish := by
  cases hphase : s.phase with
  | ended => exact absurd hphase active
  | draining =>
      have hfinish := Step.finish hphase handled
      exact ⟨[.finish], _, run?_of_step hfinish [], rfl, by simp⟩
  | running =>
      have hstops : s.stopRequested = true ∨ (¬ s.hasCallers = true ∧ s.commands = []) := by
        rcases told with hdraining | hstop | hcallers
        · exact absurd (hphase.symm.trans hdraining) (by simp)
        · exact Or.inl hstop
        · exact Or.inr ⟨by simp [hcallers], handled⟩
      have hclose := Step.close hphase hstops
      have hfinish := @Step.finish { s with phase := .draining } rfl handled
      exact ⟨[.close, .finish], _, (run?_of_step hclose _).trans (run?_of_step hfinish []), rfl,
        by simp⟩

/-- A manager that has been told to stop can end by steps of its own. -/
theorem manager_can_end {s : State} (active : s.phase ≠ .ended)
    (told : s.phase = .draining ∨ s.stopRequested = true ∨ s.hasCallers = false) :
    ∃ more t, s.run? more = some t ∧ t.phase = .ended ∧
      ∀ a ∈ more, a = .handle ∨ a = .close ∨ a = .finish := by
  obtain ⟨u, hhandles, hnone, hphase, hstop, hcallers⟩ := handles_rest active rfl
  have htold : u.phase = .draining ∨ u.stopRequested = true ∨ u.hasCallers = false := by
    rwa [hphase, hstop, hcallers]
  obtain ⟨more, t, hends, hended, hmore⟩ :=
    ends_when_empty (fun hended => active (hphase.symm.trans hended)) hnone htold
  refine ⟨List.replicate s.commands.length .handle ++ more, t, ?_, hended, fun a ha => ?_⟩
  · rw [State.run?_append, hhandles]
    exact hends
  · rcases List.mem_append.mp ha with ha | ha
    · exact Or.inl (List.eq_of_mem_replicate ha)
    · exact Or.inr (hmore a ha)

/-! ## After the queue is closed -/

/-- A step of a session whose queue is closed puts nothing into the queue and
gives out no acknowledgement. -/
theorem closed_step {s t : State} {a : Action} (h : History) (closed : s.isOpen = false)
    (step : Step s a t) : t.isOpen = false ∧ a.submission? = none ∧
      (h.extend s a).entered = h.entered ∧ t.commands <:+ s.commands ∧
      t.acks.length = s.acks.length := by
  have hstays : t.isOpen = false := by
    rw [← Bool.not_eq_true]
    intro hopen
    exact absurd (closed.symm.trans (isOpen_of_step step hopen)) (by simp)
  have hnone : a.submission? = none := by
    cases step with
    | submit hopen => exact absurd (closed.symm.trans hopen) (by simp)
    | _ => rfl
  refine ⟨hstays, hnone, ?_, ?_, ?_⟩
  · cases step with
    | submit hopen => exact absurd (closed.symm.trans hopen) (by simp)
    | answer hcalling =>
        simp only [History.extend, hcalling]
        exact if_neg (by simp [closed])
    | handle hactive hfront => simp only [History.extend, hfront]
    | start hidle hfront => simp only [History.extend, hfront]
    | settle hreporting => simp only [History.extend, hreporting]
    | @deliver inbox box item rest fails hfound hfront hlive => cases fails <;> rfl
    | _ => rfl
  · cases step with
    | submit hopen => exact absurd (closed.symm.trans hopen) (by simp)
    | @handle command rest hactive hfront =>
        rw [hfront]
        exact List.suffix_cons command rest
    | answer hcalling => simp [closed]
    | _ => exact List.suffix_refl _
  · rw [(callers_extend h step).2, hnone]
    rfl

theorem closed_run {actions more : List Action} {s t : State}
    (run : State.initial.run? actions = some s) (closed : s.isOpen = false)
    (later : s.run? more = some t) : t.isOpen = false ∧ submissions more = [] ∧
      (history (actions ++ more)).entered = (history actions).entered ∧
      t.commands <:+ s.commands ∧ t.acks.length = s.acks.length := by
  refine @State.run_induction _ _ (fun more t => t.isOpen = false ∧ submissions more = [] ∧
      (history (actions ++ more)).entered = (history actions).entered ∧
      t.commands <:+ s.commands ∧ t.acks.length = s.acks.length)
    ⟨closed, rfl, by rw [List.append_nil], List.suffix_refl _, rfl⟩ ?_ _ later
  intro more a u t hmore ⟨hclosed, hnone, hentered, hcommands, hacks⟩ hstep
  have hwhole : State.initial.run? (actions ++ more) = some u := by
    rw [State.run?_append, run]
    exact hmore
  obtain ⟨hstays, hsilent, hsame, hrest, hcount⟩ :=
    closed_step (history (actions ++ more)) hclosed hstep
  refine ⟨hstays, ?_, ?_, hrest.trans hcommands, hcount.trans hacks⟩
  · rw [submissions, List.filterMap_append, ← submissions, hnone]
    simp [hsilent]
  · rw [← List.append_assoc, history_concat hwhole hstep, hsame, hentered]

/-! ## Calls and submissions -/

/-- A call succeeds by becoming a step of the session. -/
theorem submit_eq_ok_iff {s t : State} {what : Submission} :
    Client.submit s what = .ok t ↔ s.step? (.submit what) = some t := by
  show Client.submit s what = .ok t ↔ s.submit? what = some t
  rw [Client.submit]
  cases s.submit? what with
  | none => simp
  | some u => simp

/-- A request that is issued shows the acknowledgement that its command carries. -/
theorem issue_eq_ok_iff {s : State} {topic : String} {what : Submission}
    {issued : Client.Issued} : Client.issue s topic what = .ok issued ↔
      s.step? (.submit what) = some issued.session ∧ issued.ack = s.acks.length ∧
        issued.topic = topic := by
  rw [← submit_eq_ok_iff, Client.issue]
  obtain ⟨session, ack, name⟩ := issued
  cases Client.submit s what with
  | error e => simp
  | ok t => simp [eq_comm]

/-- A closed queue refuses what it is handed. -/
theorem submit_closed {s : State} (closed : s.isOpen = false) (what : Submission) :
    Client.submit s what = .error .channelClosed := by
  rw [Client.submit, State.submit?, if_neg (by simp [closed])]

theorem issue_closed {s : State} (closed : s.isOpen = false) (topic : String)
    (what : Submission) : Client.issue s topic what = .error .channelClosed := by
  rw [Client.issue, submit_closed closed]

/-- Every call that gets as far as the queue fails, and for the same reason. -/
structure Client.RefusesAll (s : State) : Prop where
  subscribe : ∀ topic qos, Client.checkTopic topic = .ok () →
    Client.subscribe s topic qos = .error .channelClosed
  unsubscribe : ∀ topic, Client.unsubscribe s topic = .error .channelClosed
  publish : ∀ {α : Type} (format : Format α) topic data qos payload,
    Client.checkTopic topic = .ok () → format.write data = .ok payload →
      Client.publish format s topic data qos = .error .channelClosed
  dispatch : ∀ topic payload, Client.dispatch s topic payload = .error .channelClosed
  sessionRestored : Client.sessionRestored s false = .error .channelClosed

theorem refusesAll_of_closed {s : State} (closed : s.isOpen = false) : Client.RefusesAll s where
  subscribe := by
    intro topic qos hvalid
    rw [Client.subscribe, hvalid]
    exact issue_closed closed topic _
  unsubscribe := fun topic => issue_closed closed topic _
  publish := by
    intro α format topic data qos payload hvalid hwritten
    rw [Client.publish, hvalid, hwritten]
    exact issue_closed closed topic _
  dispatch := fun topic payload => submit_closed closed _
  sessionRestored := submit_closed closed _

/-- A stop loses nothing that was accepted and lets nothing in afterwards.  The
commands of the accepted calls are performed once each and in order, each with its
effect on the session, all of them before the manager ends.  Then the manager orders
that each topic with a route is unsubscribed and leaves the table empty; the transport
sees these orders after those from before, and no other.  A manager that has been told
to stop can always get there by itself.  Once the queue is closed every call is refused,
and nothing more comes into the queue. -/
theorem stop_handles_all_accepted {actions : List Action} {s : State}
    (run : State.initial.run? actions = some s) :
    (∀ what t, Client.submit s what = .ok t ↔ s.step? (.submit what) = some t) ∧
    (∀ topic what issued, Client.issue s topic what = .ok issued ↔
      s.step? (.submit what) = some issued.session ∧ issued.ack = s.acks.length ∧
        issued.topic = topic) ∧
    Performs .initial actions s (history actions).handled ∧
    callers (history actions).handled <+: commandsFrom 0 (submissions actions) ∧
    (s.phase = .ended →
      callers (history actions).handled = commandsFrom 0 (submissions actions) ∧
      s.commands = [] ∧ s.routes = [] ∧
      ∃ early late u v, actions = early ++ .finish :: late ∧
        State.initial.run? early = some u ∧ Releases u v ∧ v.run? late = some s ∧
        (history early).handled = (history actions).handled ∧
        s.calls ++ s.orders.map Order.call <+: v.calls ++ v.orders.map Order.call ∧
        (.abortWorker ∉ late →
          s.calls ++ s.orders.map Order.call = v.calls ++ v.orders.map Order.call)) ∧
    (s.phase ≠ .ended →
      (s.phase = .draining ∨ s.stopRequested = true ∨ s.hasCallers = false) →
      ∃ more t, s.run? more = some t ∧ t.phase = .ended ∧
        ∀ a ∈ more, a = .handle ∨ a = .close ∨ a = .finish) ∧
    (s.isOpen = false → Client.RefusesAll s ∧
      ∀ more t, s.run? more = some t → submissions more = [] ∧
        (history (actions ++ more)).entered = (history actions).entered ∧
        t.commands <:+ s.commands ∧ t.acks.length = s.acks.length) := by
  have flows := flows_of_run run
  obtain ⟨hcallers, -⟩ := callers_entered run
  refine ⟨fun what t => submit_eq_ok_iff, fun topic what issued => issue_eq_ok_iff,
    performs_of_run run, ?_, ?_, manager_can_end, ?_⟩
  · rw [← hcallers, flows.entered, callers_append]
    exact List.prefix_append _ _
  · intro hended
    obtain ⟨early, late, u, v, hsplit, hearly, hfinish, hlate, hhandled⟩ :=
      ended_by_finish run hended
    have hphase : v.phase = .ended := by
      cases hfinish
      rfl
    obtain ⟨-, hcalls⟩ := allCalls_run hphase hlate
    refine ⟨?_, flows.managerEnded hended, routes_of_ended run hended, early, late, u, v, hsplit,
      hearly, releases_of_finish hearly hfinish, hlate, hhandled.symm, hcalls⟩
    rw [← hcallers, flows.entered, flows.managerEnded hended, List.append_nil]
  · intro hclosed
    refine ⟨refusesAll_of_closed hclosed, fun more t hmore => ?_⟩
    exact (closed_run run hclosed hmore).2

/-- The session is told to stop while a subscription waits in the queue; a
message and another request come in before the queue is closed. -/
def stoppedWhileBusy : List Action :=
  [.submit (.subscribe "a" .atLeastOnce), .submit (.subscribe "b" .atMostOnce), .requestStop,
    .handle, .submit (.dispatch "a" ⟨#[1]⟩), .submit (.unsubscribe "b"), .close, .handle, .start,
    .handle, .handle, .answer (.ok ()), .finish, .settle]

def afterStoppedWhileBusy : State := (State.initial.run? stoppedWhileBusy).getD .initial

theorem late_commands_handled :
    State.initial.run? stoppedWhileBusy = some afterStoppedWhileBusy ∧
      afterStoppedWhileBusy.phase = .ended ∧ afterStoppedWhileBusy.isOpen = false ∧
      Performs .initial stoppedWhileBusy afterStoppedWhileBusy
        [.subscribe "a" .atLeastOnce 0, .subscribe "b" .atMostOnce 1, .dispatch "a" ⟨#[1]⟩,
          .unsubscribe "b" 2] ∧
      afterStoppedWhileBusy.calls = [.subscribe "a" .atLeastOnce] ∧
      afterStoppedWhileBusy.orders =
        [⟨.subscribe "b" .atMostOnce, .caller 1, some 1⟩, ⟨.unsubscribe "b", .caller 2, none⟩,
          ⟨.unsubscribe "a", .nobody, none⟩] ∧
      (∃ u v, Releases u v ∧ afterStoppedWhileBusy.calls ++
        afterStoppedWhileBusy.orders.map Order.call = v.calls ++ v.orders.map Order.call) ∧
      Client.unsubscribe afterStoppedWhileBusy "a" = .error .channelClosed := by
  have hrun : State.initial.run? stoppedWhileBusy = some afterStoppedWhileBusy := by decide
  have hended : afterStoppedWhileBusy.phase = .ended := by decide
  have hclosed : afterStoppedWhileBusy.isOpen = false := by decide
  have hfinishes : .abortWorker ∉ stoppedWhileBusy := by decide
  obtain ⟨-, -, hperforms, -, hflushed, -, hrefuses⟩ := stop_handles_all_accepted hrun
  obtain ⟨-, -, -, early, late, u, v, hsplit, -, hreleases, -, -, -, hcalls⟩ := hflushed hended
  have hlate : .abortWorker ∉ late := fun hmem => hfinishes (by simp [hsplit, hmem])
  exact ⟨hrun, hended, hclosed, hperforms, by decide, by decide,
    ⟨u, v, hreleases, hcalls hlate⟩, (hrefuses hclosed).1.unsubscribe "a"⟩

end DeviceLink.Session
