import DeviceLink.Proofs.Session.History
import Mathlib.Data.List.Range

/-!
# What an acknowledgement learns

Every request that the queue has taken has an acknowledgement of its own, and
the numbers of the acknowledgements travel unchanged and in order through both
queues (`Tracked`).  So the orders that the manager has made name each of them
at most once, and an acknowledgement shows the one outcome that was reported for
it, if any.
-/

namespace DeviceLink.Session

/-- The acknowledgement of a request, and the call that it asks for. -/
abbrev Request := Nat × TransportCall

def Command.request? : Command → Option Request
  | subscribe topic qos ack => some (ack, .subscribe topic qos)
  | unsubscribe topic ack => some (ack, .unsubscribe topic)
  | publish topic payload qos ack => some (ack, .publish topic payload qos)
  | dispatch .. => none
  | resubscribe => none
  | subscribeFailed .. => none

def Order.request? (order : Order) : Option Request :=
  match order.observer with
  | .caller ack => some (ack, order.call)
  | .subscription _ => none
  | .nobody => none

def requests (commands : List Command) : List Request := commands.filterMap Command.request?

def orderedRequests (orders : List Order) : List Request := orders.filterMap Order.request?

@[simp] theorem requests_append (commands more : List Command) :
    requests (commands ++ more) = requests commands ++ requests more :=
  List.filterMap_append

@[simp] theorem orderedRequests_append (orders more : List Order) :
    orderedRequests (orders ++ more) = orderedRequests orders ++ orderedRequests more :=
  List.filterMap_append

theorem mem_orderedRequests {orders : List Order} {ack : Nat} {call : TransportCall} :
    (ack, call) ∈ orderedRequests orders ↔
      ∃ order ∈ orders, order.observer = .caller ack ∧ order.call = call := by
  unfold orderedRequests
  rw [List.mem_filterMap]
  refine exists_congr fun order => and_congr_right fun _ => ?_
  unfold Order.request?
  cases order.observer <;> simp

/-- The manager passes a request on as it came, and makes none of its own. -/
theorem orderedRequests_ordersFor (s : State) (command : Command) :
    orderedRequests (s.ordersFor command) = requests [command] := by
  cases command with
  | subscribe topic qos ack => rfl
  | unsubscribe topic ack => rfl
  | publish topic payload qos ack => rfl
  | subscribeFailed topic id => rfl
  | dispatch topic payload =>
      rw [State.ordersFor]
      split <;> rfl
  | resubscribe =>
      refine List.filterMap_eq_nil_iff.mpr fun order hmem => ?_
      obtain ⟨e, -, rfl⟩ := List.mem_map.mp hmem
      rfl

theorem orderedRequests_releaseOrders (routes : Routes) :
    orderedRequests (State.releaseOrders routes) = [] := by
  refine List.filterMap_eq_nil_iff.mpr fun order hmem => ?_
  obtain ⟨e, -, rfl⟩ := List.mem_map.mp hmem
  rfl

theorem requests_refusal? (order : Order) (outcome : Outcome) :
    requests (State.refusal? order outcome).toList = [] := by
  obtain ⟨call, observer, route⟩ := order
  cases route <;> cases outcome <;> rfl

/-- A submission takes the acknowledgement that it was given, if it needs one. -/
theorem requests_submission (what : Submission) (ack : Nat) :
    (requests [what.command ack]).map Prod.fst = if what.isRequest then [ack] else [] := by
  cases what <;> rfl

theorem countP_observer (ack : Nat) (orders : List Order) :
    (orders.countP fun order => order.observer = .caller ack) =
      ((orderedRequests orders).map Prod.fst).count ack := by
  unfold orderedRequests
  induction orders with
  | nil => rfl
  | cons order rest ih =>
      obtain ⟨call, observer, route⟩ := order
      rw [List.countP_cons, ih, List.filterMap_cons]
      cases observer with
      | caller other => simp [Order.request?, List.count_cons]
      | subscription inbox => simp [Order.request?]
      | nobody => simp [Order.request?]

/-- How often an acknowledgement learns an outcome is how often orders name it. -/
theorem length_outcomesFor (ack : Nat) (endings : List Ending) :
    (State.outcomesFor ack endings).length =
      ((orderedRequests (endings.map Prod.fst)).map Prod.fst).count ack := by
  rw [← countP_observer, List.countP_map, State.outcomesFor, List.length_filterMap_eq_countP]
  refine List.countP_congr fun e _ => ?_
  by_cases h : e.1.observer = .caller ack <;> simp [h]

theorem mem_outcomesFor {ack : Nat} {outcome : Outcome} {endings : List Ending} :
    outcome ∈ State.outcomesFor ack endings ↔
      ∃ order, (order, outcome) ∈ endings ∧ order.observer = .caller ack := by
  unfold State.outcomesFor
  rw [List.mem_filterMap]
  constructor
  · rintro ⟨⟨order, found⟩, hmem, hmine⟩
    obtain ⟨hobserver, hfound⟩ := Option.ite_none_right_eq_some.mp hmine
    obtain rfl := Option.some.inj hfound
    exact ⟨order, hmem, hobserver⟩
  · rintro ⟨order, hmem, hobserver⟩
    exact ⟨(order, outcome), hmem, if_pos hobserver⟩

/-- Two members of a list with the same image are one, if the images are
distinct. -/
theorem eq_of_nodup_filterMap {α β : Type} {f : α → Option β} {xs : List α} {x y : α} {b : β}
    (distinct : (xs.filterMap f).Nodup) (hx : x ∈ xs) (hy : y ∈ xs) (hfx : f x = some b)
    (hfy : f y = some b) : x = y := by
  have hpairs := List.pairwise_filterMap.mp distinct
  induction xs with
  | nil => exact absurd hx List.not_mem_nil
  | cons z rest ih =>
      obtain ⟨hhead, htail⟩ := List.pairwise_cons.mp hpairs
      rcases List.mem_cons.mp hx with hxz | hxrest
      · rcases List.mem_cons.mp hy with hyz | hyrest
        · exact hxz.trans hyz.symm
        · exact absurd rfl (hhead y hyrest b (hxz ▸ hfx) b hfy)
      · rcases List.mem_cons.mp hy with hyz | hyrest
        · exact absurd rfl (hhead x hxrest b (hyz ▸ hfy) b hfx)
        · exact ih (List.pairwise_filterMap.mpr htail) hxrest hyrest htail

/-- Requests keep their numbers and their order in both queues, and each
acknowledgement shows the first outcome that was reported for it. -/
structure Tracked (h : History) (s : State) : Prop where
  numbered : (requests h.entered).map Prod.fst = List.range s.acks.length
  passedOn : requests h.handled = orderedRequests h.ordered
  shown : ∀ ack < s.acks.length, s.acks[ack]? = some (State.outcomesFor ack h.settled).head?

namespace Tracked

variable {h : History} {s t : State} {a : Action}

theorem initial : Tracked {} .initial where
  numbered := rfl
  passedOn := rfl
  shown := fun ack hlt => absurd hlt (Nat.not_lt_zero ack)

/-- The orders carry out a part of the requests, in order. -/
theorem orderedRequests_prefix (tracked : Tracked h s) (flows : Flows h s) :
    orderedRequests h.ordered <+: requests h.entered := by
  refine ⟨requests s.commands, ?_⟩
  rw [flows.entered, requests_append, tracked.passedOn]

/-- No two requests have the same acknowledgement. -/
theorem nodup (tracked : Tracked h s) : ((requests h.entered).map Prod.fst).Nodup := by
  rw [tracked.numbered]
  exact List.nodup_range

theorem lt_of_mem (tracked : Tracked h s) {request : Request}
    (made : request ∈ requests h.entered) : request.1 < s.acks.length := by
  rw [← List.mem_range, ← tracked.numbered]
  exact List.mem_map_of_mem made

theorem call_eq (tracked : Tracked h s) {ack : Nat} {call other : TransportCall}
    (made : (ack, call) ∈ requests h.entered) (made' : (ack, other) ∈ requests h.entered) :
    call = other := by
  have heq := List.inj_on_of_nodup_map tracked.nodup made made' rfl
  exact congrArg Prod.snd heq

/-- Orders that the manager has made name an acknowledgement at most once. -/
theorem count_le_one (tracked : Tracked h s) (flows : Flows h s) {orders : List Order}
    (made : orders <+: h.ordered) (ack : Nat) :
    ((orderedRequests orders).map Prod.fst).count ack ≤ 1 := by
  have hpart : orderedRequests orders <+: requests h.entered :=
    (made.filterMap _).trans (tracked.orderedRequests_prefix flows)
  have hcount := (hpart.sublist.map Prod.fst).count_le ack
  exact hcount.trans (List.nodup_iff_count_le_one.mp tracked.nodup ack)

/-- No two orders report to the same acknowledgement. -/
theorem order_eq (tracked : Tracked h s) (flows : Flows h s) {order other : Order} {ack : Nat}
    (made : order ∈ h.ordered) (made' : other ∈ h.ordered) (observed : order.observer = .caller ack)
    (observed' : other.observer = .caller ack) : order = other := by
  have hpart := (tracked.orderedRequests_prefix flows).sublist
  have hdistinct := (hpart.map Prod.fst).nodup tracked.nodup
  rw [orderedRequests, List.map_filterMap] at hdistinct
  refine eq_of_nodup_filterMap hdistinct made made' (b := ack) ?_ ?_
  · simp [Order.request?, observed]
  · simp [Order.request?, observed']

theorem outcomesFor_length_le (tracked : Tracked h s) (flows : Flows h s)
    {endings : List Ending} (made : endings.map Prod.fst <+: h.ordered) (ack : Nat) :
    (State.outcomesFor ack endings).length ≤ 1 := by
  rw [length_outcomesFor]
  exact tracked.count_le_one flows made ack

/-- What the reports of a step add to an acknowledgement. -/
theorem shown_toldAcks (tracked : Tracked h s) (endings : List Ending) {ack : Nat}
    (given : ack < s.acks.length) : (State.toldAcks s.acks endings)[ack]? =
      some (State.outcomesFor ack (h.settled ++ endings)).head? := by
  have hboth : State.outcomesFor ack (h.settled ++ endings) =
      State.outcomesFor ack h.settled ++ State.outcomesFor ack endings :=
    List.filterMap_append
  rw [State.getElem?_toldAcks, tracked.shown ack given, hboth, List.head?_append]
  rfl

/-- Nothing has been reported for an acknowledgement that is not given out yet. -/
theorem outcomesFor_fresh (tracked : Tracked h s) (flows : Flows h s) :
    State.outcomesFor s.acks.length h.settled = [] := by
  rw [List.eq_nil_iff_forall_not_mem]
  intro outcome hmem
  obtain ⟨order, hended, hobserver⟩ := mem_outcomesFor.mp hmem
  have hordered : order ∈ h.ordered := by
    rw [flows.ordered]
    exact List.mem_append_left _ (List.mem_map_of_mem hended)
  have hmade : (s.acks.length, order.call) ∈ requests h.entered :=
    (tracked.orderedRequests_prefix flows).subset
      (mem_orderedRequests.mpr ⟨order, hordered, hobserver, rfl⟩)
  exact absurd (tracked.lt_of_mem hmade) (Nat.lt_irrefl _)

theorem submit (tracked : Tracked h s) (flows : Flows h s) (what : Submission) :
    Tracked (h.extend s (.submit what)) { s with
      commands := s.commands ++ [what.command s.acks.length]
      acks := if what.isRequest then s.acks ++ [none] else s.acks } := by
  have hnumbers := requests_submission what s.acks.length
  refine ⟨?_, tracked.passedOn, ?_⟩
  · simp only [History.extend, requests_append, List.map_append, tracked.numbered, hnumbers]
    cases what.isRequest with
    | true => simp [List.range_succ]
    | false => simp
  · intro ack hlt
    cases hrequest : what.isRequest with
    | false =>
        simp only [hrequest, Bool.false_eq_true, if_false] at hlt ⊢
        exact tracked.shown ack hlt
    | true =>
        simp only [hrequest, if_true, List.length_append, List.length_singleton] at hlt ⊢
        rcases Nat.lt_succ_iff_lt_or_eq.mp hlt with hold | rfl
        · rw [List.getElem?_append_left hold]
          exact tracked.shown ack hold
        · -- The new acknowledgement has the next number, which no report can have named.
          rw [List.getElem?_concat_length]
          exact congrArg some (by rw [History.extend, tracked.outcomesFor_fresh flows]; rfl)

theorem step (flows : Flows h s) (tracked : Tracked h s) (step : Step s a t) :
    Tracked (h.extend s a) t := by
  obtain ⟨hnumbered, hpassed, hshown⟩ := id tracked
  cases step with
  | submit hopen => exact tracked.submit flows _
  | @handle command rest hactive hfront =>
      simp only [History.extend, hfront]
      refine ⟨hnumbered, ?_, hshown⟩
      rw [requests_append, orderedRequests_append, hpassed, orderedRequests_ordersFor]
  | finish hdraining hhandled =>
      refine ⟨hnumbered, ?_, hshown⟩
      simp only [History.extend, orderedRequests_append, orderedRequests_releaseOrders,
        List.append_nil]
      exact hpassed
  | start hidle hfront =>
      simp only [History.extend, hfront]
      exact ⟨hnumbered, hpassed, hshown⟩
  | @answer order outcome hcalling =>
      simp only [History.extend, hcalling]
      refine ⟨?_, hpassed, hshown⟩
      show (requests (if s.isOpen then _ else _)).map Prod.fst = List.range s.acks.length
      rw [← hnumbered]
      split
      · rw [requests_append, requests_refusal?, List.append_nil]
      · rfl
  | settle hreporting =>
      simp only [History.extend, hreporting]
      refine ⟨?_, hpassed, ?_⟩
      · rw [State.length_toldAcks]
        exact hnumbered
      · intro ack hlt
        exact tracked.shown_toldAcks _ (State.length_toldAcks _ _ ▸ hlt)
  | abort hended hwaiting =>
      refine ⟨?_, hpassed, ?_⟩
      · rw [State.length_toldAcks]
        exact hnumbered
      · intro ack hlt
        exact tracked.shown_toldAcks _ (State.length_toldAcks _ _ ▸ hlt)
  | @deliver inbox box item rest fails hfound hfront hlive =>
      cases fails
      · exact ⟨hnumbered, hpassed, hshown⟩
      · exact ⟨hnumbered, hpassed, hshown⟩
  | requestStop => exact ⟨hnumbered, hpassed, hshown⟩
  | dropCallers => exact ⟨hnumbered, hpassed, hshown⟩
  | close hrunning hstops => exact ⟨hnumbered, hpassed, hshown⟩
  | reorder hperm => exact ⟨hnumbered, hpassed, hshown⟩
  | endWorker hended hidle hdone => exact ⟨hnumbered, hpassed, hshown⟩

end Tracked

theorem tracked_of_run {actions : List Action} {s : State}
    (run : State.initial.run? actions = some s) : Tracked (history actions) s :=
  history_induction Tracked.initial
    (fun hrun tracked hstep => tracked.step (flows_of_run hrun) hstep) run

/-! ## One outcome for each acknowledgement -/

/-- An acknowledgement that has learned an outcome keeps it. -/
theorem resolved_step {s t : State} {a : Action} {ack : Nat} {outcome : Outcome}
    (resolved : s.acks[ack]? = some (some outcome)) (step : Step s a t) :
    t.acks[ack]? = some (some outcome) := by
  have htold : ∀ endings, (State.toldAcks s.acks endings)[ack]? = some (some outcome) := by
    intro endings
    rw [State.getElem?_toldAcks, resolved]
    rfl
  cases step with
  | submit hopen =>
      show (if _ then s.acks ++ [none] else s.acks)[ack]? = _
      split
      · rw [List.getElem?_append_left (List.getElem?_eq_some_iff.mp resolved).1]
        exact resolved
      · exact resolved
  | settle hreporting => exact htold _
  | abort hended hwaiting => exact htold _
  | requestStop => exact resolved
  | dropCallers => exact resolved
  | handle hactive hfront => exact resolved
  | close hrunning hstops => exact resolved
  | finish hdraining hhandled => exact resolved
  | reorder hperm => exact resolved
  | start hidle hfront => exact resolved
  | answer hcalling => exact resolved
  | endWorker hended hidle hdone => exact resolved
  | deliver hfound hfront hlive => exact resolved

theorem resolved_run {s t : State} {more : List Action} {ack : Nat} {outcome : Outcome}
    (resolved : s.acks[ack]? = some (some outcome)) (later : s.run? more = some t) :
    t.acks[ack]? = some (some outcome) :=
  @State.run_induction _ _ (fun _ t => t.acks[ack]? = some (some outcome)) resolved
    (fun _ hresolved hstep => resolved_step hresolved hstep) _ later

namespace Tracked

variable {h : History} {s : State} {ack : Nat} {call : TransportCall}

/-- The acknowledgement of a call that has returned shows the result, unless the
worker is just about to report it. -/
theorem completed (tracked : Tracked h s) (flows : Flows h s)
    (made : (ack, call) ∈ requests h.entered) {order : Order} {outcome : Outcome}
    (answered : (order, outcome) ∈ h.answered) (observed : order.observer = .caller ack) :
    s.worker = .reporting order outcome ∨ s.acks[ack]? = some (some outcome) := by
  have hreported : (order, outcome) ∈ h.settled ++ s.worker.reported := by
    rw [flows.settled]
    exact List.mem_append_left _ answered
  rcases List.mem_append.mp hreported with hsettled | hpending
  · -- It is the only outcome reported for the acknowledgement, hence the first.
    right
    have hmem := mem_outcomesFor.mpr ⟨order, hsettled, observed⟩
    have hone := tracked.outcomesFor_length_le flows flows.settled_prefix ack
    rw [tracked.shown ack (tracked.lt_of_mem made)]
    obtain ⟨only, honly⟩ := List.length_eq_one_iff.mp
      (Nat.le_antisymm hone (List.length_pos_of_mem hmem))
    rw [honly] at hmem ⊢
    rw [List.mem_singleton.mp hmem]
    rfl
  · left
    cases hworker : s.worker with
    | reporting order' outcome' =>
        rw [hworker] at hpending
        obtain ⟨rfl, rfl⟩ := Prod.mk.inj (List.mem_singleton.mp hpending)
        rfl
    | idle => exact absurd (hworker ▸ hpending) List.not_mem_nil
    | calling order' => exact absurd (hworker ▸ hpending) List.not_mem_nil
    | ended => exact absurd (hworker ▸ hpending) List.not_mem_nil

/-- An outcome that no call has returned says that the connection was closed. -/
theorem closed (tracked : Tracked h s) (flows : Flows h s)
    (made : (ack, call) ∈ requests h.entered)
    (unanswered : ∀ e ∈ h.answered, e.1.observer ≠ .caller ack) {outcome : Outcome}
    (resolved : s.acks[ack]? = some (some outcome)) : outcome = .error .connectionClosed := by
  rw [tracked.shown ack (tracked.lt_of_mem made)] at resolved
  obtain ⟨order, hsettled, hobserver⟩ :=
    mem_outcomesFor.mp (List.mem_of_mem_head? (Option.some.inj resolved))
  have hreported : (order, outcome) ∈ h.answered ++ State.closings h.dropped := by
    rw [← flows.settled]
    exact List.mem_append_left _ hsettled
  rcases List.mem_append.mp hreported with hanswered | hclosed
  · exact absurd hobserver (unanswered _ hanswered)
  · obtain ⟨dropped, -, heq⟩ := List.mem_map.mp hclosed
    exact (Prod.mk.inj heq).2.symm

/-- When manager and worker have ended, every acknowledgement has learned an
outcome. -/
theorem resolved_of_ended (tracked : Tracked h s) (flows : Flows h s)
    (made : (ack, call) ∈ requests h.entered) (ended : s.phase = .ended)
    (workerEnded : s.worker = .ended) : ∃ outcome, s.acks[ack]? = some (some outcome) := by
  have hordered : (ack, call) ∈ orderedRequests h.ordered := by
    rw [flows.entered, flows.managerEnded ended, List.append_nil, tracked.passedOn] at made
    exact made
  -- Nothing is left in either queue, so the order's outcome has been reported.
  obtain ⟨order, hmem, hobserver, -⟩ := mem_orderedRequests.mp hordered
  rw [flows.ordered, workerEnded, (flows.workerEnded workerEnded).2] at hmem
  obtain ⟨⟨order, outcome⟩, hsettled, rfl⟩ :=
    List.mem_map.mp (show order ∈ h.settled.map Prod.fst by simpa using hmem)
  have hlearned := mem_outcomesFor.mpr ⟨order, hsettled, hobserver⟩
  rw [tracked.shown ack (tracked.lt_of_mem made), List.head?_eq_some_head
    (List.ne_nil_of_mem hlearned)]
  exact ⟨_, rfl⟩

end Tracked

/-- Every acknowledgement learns exactly one outcome: the result of the one call
that was made for its request, or that the connection was closed before that
call returned.  When manager and worker have ended, it has learned it. -/
theorem acknowledged_exactly_once {actions : List Action} {s : State}
    (run : State.initial.run? actions = some s) {ack : Nat} {call : TransportCall}
    (made : (ack, call) ∈ requests (history actions).entered) :
    (State.outcomesFor ack (history actions).settled).length ≤ 1 ∧
      s.acks[ack]? = some (State.outcomesFor ack (history actions).settled).head? ∧
      (∀ outcome, s.acks[ack]? = some (some outcome) → ∀ more t, s.run? more = some t →
        t.acks[ack]? = some (some outcome)) ∧
      ((history actions).started.countP fun order => order.observer = .caller ack) ≤ 1 ∧
      (∀ order ∈ (history actions).started, order.observer = .caller ack → order.call = call) ∧
      (∀ order outcome, (order, outcome) ∈ (history actions).answered →
        order.observer = .caller ack →
        s.worker = .reporting order outcome ∨ s.acks[ack]? = some (some outcome)) ∧
      ((∀ e ∈ (history actions).answered, e.1.observer ≠ .caller ack) →
        ∀ outcome, s.acks[ack]? = some (some outcome) → outcome = .error .connectionClosed) ∧
      (s.phase = .ended → s.worker = .ended → ∃ outcome, s.acks[ack]? = some (some outcome)) := by
  have flows := flows_of_run run
  have tracked := tracked_of_run run
  refine ⟨?_, tracked.shown ack (tracked.lt_of_mem made), ?_, ?_, ?_, ?_, ?_, ?_⟩
  · exact tracked.outcomesFor_length_le flows flows.settled_prefix ack
  · exact fun outcome hresolved more t hmore => resolved_run hresolved hmore
  · rw [countP_observer]
    exact tracked.count_le_one flows flows.started ack
  · intro order hstarted hobserver
    have hcarried := mem_orderedRequests.mpr
      ⟨order, flows.started.subset hstarted, hobserver, rfl⟩
    exact tracked.call_eq ((tracked.orderedRequests_prefix flows).subset hcarried) made
  · exact fun order outcome hanswered hobserver =>
      tracked.completed flows made hanswered hobserver
  · exact fun hunanswered outcome hresolved => tracked.closed flows made hunanswered hresolved
  · exact tracked.resolved_of_ended flows made

/-- The worker completes one request, and is cut off while it waits for the
result of the next, with one more behind it. -/
def cutOff : List Action :=
  [.submit (.publish "a" ⟨#[1]⟩ .atLeastOnce), .submit (.subscribe "b" .atMostOnce),
    .submit (.unsubscribe "c"), .handle, .start, .requestStop, .answer (.error .queueClosed),
    .close, .handle, .settle, .handle, .finish, .start, .abortWorker]

def afterCutOff : State := (State.initial.run? cutOff).getD .initial

theorem cut_off_request_closed : State.initial.run? cutOff = some afterCutOff ∧
    (1, .subscribe "b" .atMostOnce) ∈ requests (history cutOff).entered ∧
    afterCutOff.acks[1]? = some (some (.error .connectionClosed)) := by
  have hrun : State.initial.run? cutOff = some afterCutOff := by decide
  have hmade : (1, .subscribe "b" .atMostOnce) ∈ requests (history cutOff).entered := by decide
  obtain ⟨-, -, -, -, -, -, hclosed, hended⟩ := acknowledged_exactly_once hrun hmade
  obtain ⟨outcome, hresolved⟩ := hended (by decide) (by decide)
  have hunanswered : ∀ e ∈ (history cutOff).answered, e.1.observer ≠ .caller 1 := by decide
  rw [hclosed hunanswered outcome hresolved] at hresolved
  exact ⟨hrun, hmade, hresolved⟩

end DeviceLink.Session
