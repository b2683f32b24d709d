import DeviceLink.Proofs.Session.Transition

/-!
# The history of a run

`history` keeps what the steps of a run have done, in order.  Nothing in the
session reads it; theorems about runs are stated with it.  Both queues are
first-in first-out, and the history says so (`Flows`): what has entered a queue
is what has left it, followed by what is still in it.
-/

namespace DeviceLink.Session

structure History where
  /-- The commands that have come into the queue, from callers and the worker. -/
  entered : List Command := []
  /-- The commands that the manager has performed. -/
  handled : List Command := []
  /-- The orders that the manager has made. -/
  ordered : List Order := []
  /-- The orders for which the worker has called the transport. -/
  started : List Order := []
  /-- The orders whose call has returned. -/
  answered : List Ending := []
  /-- The orders whose observers have learned how they ended. -/
  settled : List Ending := []
  /-- The orders that the worker was cut off from. -/
  dropped : List Order := []
  /-- The inboxes whose handler did not return. -/
  failed : List Nat := []

def Worker.reported : Worker → List Ending
  | .reporting order outcome => [(order, outcome)]
  | .calling _ => []
  | .idle => []
  | .ended => []

@[simp] theorem Worker.reported_idle : Worker.idle.reported = [] := rfl
@[simp] theorem Worker.reported_ended : Worker.ended.reported = [] := rfl
@[simp] theorem Worker.reported_calling (order : Order) :
    (Worker.calling order).reported = [] := rfl
@[simp] theorem Worker.reported_reporting (order : Order) (outcome : Outcome) :
    (Worker.reporting order outcome).reported = [(order, outcome)] := rfl

namespace History

def extend (h : History) (s : State) : Action → History
  | .submit what => { h with entered := h.entered ++ [what.command s.acks.length] }
  | .handle =>
    match s.commands with
    | command :: _ => { h with
        handled := h.handled ++ [command]
        ordered := h.ordered ++ s.ordersFor command }
    | [] => h
  | .finish => { h with ordered := h.ordered ++ State.releaseOrders s.routes }
  | .start =>
    match s.orders with
    | order :: _ => { h with started := h.started ++ [order] }
    | [] => h
  | .answer outcome =>
    match s.worker with
    | .calling order => { h with
        answered := h.answered ++ [(order, outcome)]
        entered :=
          if s.isOpen then h.entered ++ (State.refusal? order outcome).toList else h.entered }
    | _ => h
  | .settle =>
    match s.worker with
    | .reporting order outcome => { h with settled := h.settled ++ [(order, outcome)] }
    | _ => h
  | .abortWorker => { h with
      settled := h.settled ++ State.closings (s.worker.held ++ s.orders)
      dropped := s.worker.held ++ s.orders }
  | .deliver inbox fails => if fails then { h with failed := h.failed ++ [inbox] } else h
  | _ => h

def along (h : History) (s : State) : List Action → History
  | [] => h
  | a :: rest =>
    match s.step? a with
    | some t => (h.extend s a).along t rest
    | none => h

theorem along_append (h : History) {s t : State} {actions : List Action}
    (run : s.run? actions = some t) (more : List Action) :
    h.along s (actions ++ more) = (h.along s actions).along t more := by
  induction actions generalizing h s with
  | nil =>
      obtain rfl := Option.some.inj run
      rfl
  | cons a rest ih =>
      rw [State.run?] at run
      rw [List.cons_append, along, along]
      cases hstep : s.step? a with
      | none => simp [hstep] at run
      | some u =>
          rw [hstep] at run
          exact ih (h.extend s a) run

/-- The queue forgets nothing that has come into it. -/
theorem entered_extend (h : History) (s : State) (a : Action) :
    h.entered <+: (h.extend s a).entered := by
  cases a with
  | submit what => exact List.prefix_append _ _
  | answer outcome =>
      simp only [extend]
      split
      · show h.entered <+: if s.isOpen then _ else _
        split
        · exact List.prefix_append _ _
        · exact List.prefix_refl _
      · exact List.prefix_refl _
  | handle => simp only [extend]; split <;> exact List.prefix_refl _
  | start => simp only [extend]; split <;> exact List.prefix_refl _
  | settle => simp only [extend]; split <;> exact List.prefix_refl _
  | deliver inbox fails => simp only [extend]; split <;> exact List.prefix_refl _
  | _ => exact List.prefix_refl _

theorem failed_extend (h : History) (s : State) (a : Action) :
    h.failed <+: (h.extend s a).failed := by
  cases a with
  | deliver inbox fails =>
      simp only [extend]
      split
      · exact List.prefix_append _ _
      · exact List.prefix_refl _
  | handle => simp only [extend]; split <;> exact List.prefix_refl _
  | start => simp only [extend]; split <;> exact List.prefix_refl _
  | answer outcome => simp only [extend]; split <;> exact List.prefix_refl _
  | settle => simp only [extend]; split <;> exact List.prefix_refl _
  | _ => exact List.prefix_refl _

theorem entered_along (h : History) (s : State) (actions : List Action) :
    h.entered <+: (h.along s actions).entered := by
  induction actions generalizing h s with
  | nil => exact List.prefix_refl _
  | cons a rest ih =>
      rw [along]
      split
      · exact (h.entered_extend s a).trans (ih _ _)
      · exact List.prefix_refl _

end History

def history (actions : List Action) : History := ({} : History).along .initial actions

theorem history_append {actions : List Action} {s : State}
    (run : State.initial.run? actions = some s) (more : List Action) :
    history (actions ++ more) = (history actions).along s more :=
  History.along_append _ run more

theorem history_concat {actions : List Action} {s t : State} {a : Action}
    (run : State.initial.run? actions = some s) (step : Step s a t) :
    history (actions ++ [a]) = (history actions).extend s a := by
  rw [history_append run, History.along, State.step?_of_step step]
  rfl

/-- What holds of a fresh session and is kept by each step of a run holds after
every run. -/
theorem history_induction {holds : History → State → Prop} (initially : holds {} .initial)
    (kept : ∀ {actions s a t}, State.initial.run? actions = some s → holds (history actions) s →
      Step s a t → holds ((history actions).extend s a) t)
    {actions : List Action} {s : State} (run : State.initial.run? actions = some s) :
    holds (history actions) s := by
  refine @State.run_induction _ _ (fun actions s => holds (history actions) s)
    initially ?_ _ run
  intro actions a u t hrun hholds hstep
  rw [history_concat hrun hstep]
  exact kept hrun hholds hstep

/-- The manager handles a command, or ends, or its part of the history stays as
it was. -/
theorem manager_step (h : History) {s t : State} {a : Action} (step : Step s a t) :
    (∃ command rest, s.phase ≠ .ended ∧ s.commands = command :: rest ∧ a = .handle ∧ t = { s with
      commands := rest
      routes := s.routesAfter command
      inboxes := s.inboxesAfter command
      orders := s.orders ++ s.ordersFor command
      nextId := s.nextIdAfter command }) ∨
    (s.phase = .draining ∧ a = .finish ∧ t = { s with
      phase := .ended
      routes := []
      orders := s.orders ++ State.releaseOrders s.routes }) ∨
    ((h.extend s a).handled = h.handled ∧ (h.extend s a).ordered = h.ordered ∧
      (t.phase = .ended ↔ s.phase = .ended)) := by
  cases step with
  | handle hactive hfront => exact Or.inl ⟨_, _, hactive, hfront, rfl, rfl⟩
  | finish hdraining hhandled => exact Or.inr (Or.inl ⟨hdraining, rfl, rfl⟩)
  | close hrunning hstops => exact Or.inr (Or.inr ⟨rfl, rfl, by simp [hrunning]⟩)
  | start hidle hfront =>
      refine Or.inr (Or.inr ⟨?_, ?_, Iff.rfl⟩) <;> simp only [History.extend, hfront]
  | answer hcalling =>
      refine Or.inr (Or.inr ⟨?_, ?_, Iff.rfl⟩) <;> simp only [History.extend, hcalling]
  | settle hreporting =>
      refine Or.inr (Or.inr ⟨?_, ?_, Iff.rfl⟩) <;> simp only [History.extend, hreporting]
  | @deliver inbox box item rest fails hfound hfront hlive =>
      cases fails <;> exact Or.inr (Or.inr ⟨rfl, rfl, Iff.rfl⟩)
  | _ => exact Or.inr (Or.inr ⟨rfl, rfl, Iff.rfl⟩)

/-! ## First in, first out -/

/-- What has entered a queue has left it in the same order, or is still in it. -/
structure Flows (h : History) (s : State) : Prop where
  entered : h.entered = h.handled ++ s.commands
  ordered : h.ordered = h.settled.map Prod.fst ++ (s.worker.held ++ s.orders)
  settled : h.settled ++ s.worker.reported = h.answered ++ State.closings h.dropped
  started : h.started <+: h.ordered
  calls : s.calls = h.started.map Order.call
  /-- Until it has ended, the worker has dropped nothing. -/
  working : s.worker ≠ .ended → h.dropped = [] ∧ h.ordered = h.started ++ s.orders
  /-- The worker ends after the manager and leaves nothing behind. -/
  workerEnded : s.worker = .ended → s.phase = .ended ∧ s.orders = []
  managerEnded : s.phase = .ended → s.commands = []

namespace Flows

variable {h : History} {s t : State} {a : Action}

theorem initial : Flows {} .initial where
  entered := rfl
  ordered := rfl
  settled := rfl
  started := List.prefix_refl _
  calls := rfl
  working := fun _ => ⟨rfl, rfl⟩
  workerEnded := fun h => absurd h (by simp [State.initial])
  managerEnded := fun _ => rfl

theorem working_of_active (flows : Flows h s) (active : s.phase ≠ .ended) : s.worker ≠ .ended :=
  fun hended => active (flows.workerEnded hended).1

theorem working_of_isOpen (flows : Flows h s) (isOpen : s.isOpen = true) : s.worker ≠ .ended :=
  flows.working_of_active (State.active_of_isOpen isOpen)

/-! Each step moves one entry from one end of the equations to the other. -/

theorem submit (flows : Flows h s) {what : Submission} (step : Step s (.submit what) t) :
    Flows (h.extend s (.submit what)) t := by
  cases step with
  | submit hopen =>
      exact { flows with
        entered := by simp [History.extend, flows.entered]
        managerEnded := fun hended => absurd hended (State.active_of_isOpen hopen) }

theorem handle (flows : Flows h s) (step : Step s .handle t) : Flows (h.extend s .handle) t := by
  cases step with
  | @handle command rest hactive hfront =>
      have hbusy := flows.working_of_active hactive
      obtain ⟨hdropped, hall⟩ := flows.working hbusy
      simp only [History.extend, hfront]
      exact { flows with
        entered := by simp [flows.entered, hfront]
        ordered := by simp [flows.ordered]
        started := flows.started.trans (List.prefix_append _ _)
        working := fun _ => ⟨hdropped, by simp [hall]⟩
        workerEnded := fun hended => absurd hended hbusy
        managerEnded := fun hended => absurd hended hactive }

theorem close (flows : Flows h s) (step : Step s .close t) : Flows (h.extend s .close) t := by
  cases step with
  | close hrunning hstops =>
      have hbusy := flows.working_of_active (by simp [hrunning])
      exact { flows with
        workerEnded := fun hended => absurd hended hbusy
        managerEnded := fun hended => absurd hended (by simp) }

theorem finish (flows : Flows h s) (step : Step s .finish t) : Flows (h.extend s .finish) t := by
  cases step with
  | finish hdraining hhandled =>
      have hbusy := flows.working_of_active (by simp [hdraining])
      obtain ⟨hdropped, hall⟩ := flows.working hbusy
      exact { flows with
        ordered := by simp [History.extend, flows.ordered]
        started := flows.started.trans (List.prefix_append _ _)
        working := fun _ => ⟨hdropped, by simp [History.extend, hall]⟩
        workerEnded := fun hended => absurd hended hbusy
        managerEnded := fun _ => hhandled }

theorem start (flows : Flows h s) (step : Step s .start t) : Flows (h.extend s .start) t := by
  cases step with
  | @start order rest hidle hfront =>
      obtain ⟨hdropped, hall⟩ := flows.working (by simp [hidle])
      simp only [History.extend, hfront]
      exact { flows with
        ordered := by simp [flows.ordered, hidle, hfront]
        settled := by simpa [hidle] using flows.settled
        started := by
          rw [hall, hfront]
          exact ⟨_, List.append_assoc _ _ _⟩
        calls := by simp [flows.calls]
        working := fun _ => ⟨hdropped, by simp [hall, hfront]⟩
        workerEnded := fun hended => absurd hended (by simp) }

theorem answer (flows : Flows h s) {outcome : Outcome} (step : Step s (.answer outcome) t) :
    Flows (h.extend s (.answer outcome)) t := by
  cases step with
  | @answer order outcome hcalling =>
      obtain ⟨hdropped, hall⟩ := flows.working (by simp [hcalling])
      have hsettled : h.settled = h.answered := by
        simpa [hcalling, hdropped, State.closings] using flows.settled
      simp only [History.extend, hcalling]
      exact { flows with
        entered := by by_cases hopen : s.isOpen = true <;> simp [hopen, flows.entered]
        ordered := by simp [flows.ordered, hcalling]
        settled := by simp [hsettled, hdropped, State.closings]
        working := fun _ => ⟨hdropped, hall⟩
        workerEnded := fun hended => absurd hended (by simp)
        -- A manager that has ended is told of no refusal.
        managerEnded := fun hended => by
          have hclosed : s.isOpen = false := by
            simp [State.isOpen, show s.phase = .ended from hended]
          simp [hclosed, flows.managerEnded hended] }

theorem settle (flows : Flows h s) (step : Step s .settle t) : Flows (h.extend s .settle) t := by
  cases step with
  | @settle order outcome hreporting =>
      have hworking := flows.working (by simp [hreporting])
      simp only [History.extend, hreporting]
      exact { flows with
        ordered := by simp [flows.ordered, hreporting]
        settled := by simpa [hreporting] using flows.settled
        working := fun _ => hworking
        workerEnded := fun hended => absurd hended (by simp) }

theorem endWorker (flows : Flows h s) (step : Step s .endWorker t) :
    Flows (h.extend s .endWorker) t := by
  cases step with
  | endWorker hended hidle hdone =>
      exact { flows with
        ordered := by simp [History.extend, flows.ordered, hidle]
        settled := by simpa [History.extend, hidle] using flows.settled
        working := fun hworks => absurd rfl hworks
        workerEnded := fun _ => ⟨hended, hdone⟩ }

theorem abort (flows : Flows h s) (step : Step s .abortWorker t) :
    Flows (h.extend s .abortWorker) t := by
  cases step with
  | abort hended hwaiting =>
      have hbusy : s.worker ≠ .ended ∧ s.worker.reported = [] := by
        rcases hwaiting with hidle | ⟨order, hcalling⟩
        · simp [hidle]
        · simp [hcalling]
      -- Nothing waits to be reported, so what is held and queued is closed, in this order.
      have hsettled : h.settled = h.answered := by
        simpa [hbusy.2, (flows.working hbusy.1).1, State.closings] using flows.settled
      exact { flows with
        ordered := by simp [History.extend, flows.ordered]
        settled := by simp [History.extend, hsettled]
        working := fun hworks => absurd rfl hworks
        workerEnded := fun _ => ⟨hended, rfl⟩ }

theorem step (flows : Flows h s) (step : Step s a t) : Flows (h.extend s a) t := by
  cases a with
  | submit what => exact flows.submit step
  | handle => exact flows.handle step
  | close => exact flows.close step
  | finish => exact flows.finish step
  | start => exact flows.start step
  | answer outcome => exact flows.answer step
  | settle => exact flows.settle step
  | endWorker => exact flows.endWorker step
  | abortWorker => exact flows.abort step
  | requestStop =>
      cases step
      exact { flows with }
  | dropCallers =>
      cases step
      exact { flows with }
  | reorder routes =>
      cases step
      exact { flows with }
  | deliver inbox fails =>
      cases step
      cases fails <;> exact { flows with }

theorem settled_prefix (flows : Flows h s) : h.settled.map Prod.fst <+: h.ordered :=
  ⟨_, flows.ordered.symm⟩

theorem answered_prefix (flows : Flows h s) : h.answered.map Prod.fst <+: h.ordered := by
  have hreported : (h.settled ++ s.worker.reported).map Prod.fst <+: h.ordered := by
    rw [flows.ordered, List.map_append]
    refine (List.prefix_append_right_inj _).mpr ?_
    cases s.worker with
    | reporting order outcome => exact List.prefix_append [order] s.orders
    | idle => exact List.nil_prefix
    | calling order => exact List.nil_prefix
    | ended => exact List.nil_prefix
  rw [flows.settled, List.map_append] at hreported
  exact (List.prefix_append _ _).trans hreported

/-- Until the worker has ended, an order waits, or its call is out or has
returned. -/
theorem waits_or_called (flows : Flows h s) (working : s.worker ≠ .ended) {order : Order}
    (made : order ∈ h.ordered) : order ∈ s.orders ∨ s.worker = .calling order ∨
      ∃ outcome, (order, outcome) ∈ h.answered := by
  have hanswered : h.settled ++ s.worker.reported = h.answered := by
    rw [flows.settled, (flows.working working).1]
    exact List.append_nil _
  rw [flows.ordered, List.mem_append, List.mem_append] at made
  rcases made with hsettled | hheld | horders
  · obtain ⟨⟨order, outcome⟩, hmem, rfl⟩ := List.mem_map.mp hsettled
    exact Or.inr (Or.inr ⟨outcome, hanswered ▸ List.mem_append_left _ hmem⟩)
  · right
    cases hworker : s.worker with
    | calling order' =>
        rw [hworker] at hheld
        exact Or.inl (congrArg Worker.calling (List.mem_singleton.mp hheld).symm)
    | reporting order' outcome =>
        rw [hworker] at hheld hanswered
        obtain rfl := List.mem_singleton.mp hheld
        exact Or.inr ⟨outcome, hanswered ▸ by simp⟩
    | idle => exact absurd (hworker ▸ hheld) List.not_mem_nil
    | ended => exact absurd hworker working
  · exact Or.inl horders

end Flows

theorem flows_of_run {actions : List Action} {s : State}
    (run : State.initial.run? actions = some s) : Flows (history actions) s :=
  history_induction Flows.initial (fun _ => Flows.step) run

end DeviceLink.Session
