import DeviceLink.Proofs.Session.Effect
import Mathlib.Data.List.Induction

/-!
# Steps as a relation

`Step` says of each action when it can be taken and which state it leads to;
`step?` computes the same (`step?_eq_some_iff`).  What a whole run preserves
follows from what a step preserves by `run_induction`, which adds the steps at
the end of the run.
-/

namespace DeviceLink.Session

def Worker.held : Worker → List Order
  | .calling order => [order]
  | .reporting order _ => [order]
  | .idle => []
  | .ended => []

@[simp] theorem Worker.held_idle : Worker.idle.held = [] := rfl
@[simp] theorem Worker.held_ended : Worker.ended.held = [] := rfl
@[simp] theorem Worker.held_calling (order : Order) : (Worker.calling order).held = [order] := rfl
@[simp] theorem Worker.held_reporting (order : Order) (outcome : Outcome) :
    (Worker.reporting order outcome).held = [order] := rfl

inductive Step (s : State) : Action → State → Prop
  | submit {what : Submission} (isOpen : s.isOpen = true) :
      Step s (.submit what) { s with
        commands := s.commands ++ [what.command s.acks.length]
        acks := if what.isRequest then s.acks ++ [none] else s.acks }
  | requestStop : Step s .requestStop { s with stopRequested := true }
  | dropCallers : Step s .dropCallers { s with hasCallers := false }
  | handle {command : Command} {rest : List Command} (active : s.phase ≠ .ended)
      (front : s.commands = command :: rest) :
      Step s .handle { s with
        commands := rest
        routes := s.routesAfter command
        inboxes := s.inboxesAfter command
        orders := s.orders ++ s.ordersFor command
        nextId := s.nextIdAfter command }
  | close (running : s.phase = .running)
      (stops : s.stopRequested = true ∨ (¬ s.hasCallers = true ∧ s.commands = [])) :
      Step s .close { s with phase := .draining }
  | finish (draining : s.phase = .draining) (handled : s.commands = []) :
      Step s .finish { s with
        phase := .ended
        routes := []
        orders := s.orders ++ State.releaseOrders s.routes }
  | reorder {routes : Routes} (perm : routes.Perm s.routes) :
      Step s (.reorder routes) { s with routes }
  | start {order : Order} {rest : List Order} (idle : s.worker = .idle)
      (front : s.orders = order :: rest) :
      Step s .start { s with
        worker := .calling order
        orders := rest
        calls := s.calls ++ [order.call] }
  | answer {order : Order} {outcome : Outcome} (calling : s.worker = .calling order) :
      Step s (.answer outcome) { s with
        worker := .reporting order outcome
        commands :=
          if s.isOpen then s.commands ++ (State.refusal? order outcome).toList
          else s.commands }
  | settle {order : Order} {outcome : Outcome} (reporting : s.worker = .reporting order outcome) :
      Step s .settle { s with
        worker := .idle
        acks := State.toldAcks s.acks [(order, outcome)]
        inboxes := State.toldInboxes s.inboxes [(order, outcome)] }
  | endWorker (ended : s.phase = .ended) (idle : s.worker = .idle) (done : s.orders = []) :
      Step s .endWorker { s with worker := .ended }
  | abort (ended : s.phase = .ended)
      (waiting : s.worker = .idle ∨ ∃ order, s.worker = .calling order) :
      Step s .abortWorker { s with
        worker := .ended
        orders := []
        acks := State.toldAcks s.acks (State.closings (s.worker.held ++ s.orders))
        inboxes := State.toldInboxes s.inboxes (State.closings (s.worker.held ++ s.orders)) }
  | deliver {inbox : Nat} {box : Inbox} {item : Item} {rest : List Item} {fails : Bool}
      (found : s.inboxes[inbox]? = some box) (front : box.queue = item :: rest)
      (live : box.live = true) :
      Step s (.deliver inbox fails) { s with
        inboxes := s.inboxes.set inbox { box with
          delivered := box.delivered ++ [item]
          queue := if fails then [] else rest
          live := !fails } }

namespace State

variable {s t : State}

/-! ## The relation and the function agree -/

theorem step_of_handle? (h : s.handle? = some t) : Step s .handle t := by
  unfold handle? at h
  split at h
  · exact absurd h (by simp)
  · exact absurd h (by simp)
  · next hfront hactive =>
      rw [perform_eq] at h
      obtain rfl := Option.some.inj h
      exact .handle hactive hfront

theorem step_of_start? (h : s.start? = some t) : Step s .start t := by
  unfold start? at h
  split at h
  · next hidle hfront =>
      obtain rfl := Option.some.inj h
      exact .start hidle hfront
  · exact absurd h (by simp)

theorem step_of_answer? {outcome : Outcome} (h : s.answer? outcome = some t) :
    Step s (.answer outcome) t := by
  unfold answer? at h
  split at h
  · next hcalling =>
      obtain rfl := Option.some.inj h
      exact .answer hcalling
  · exact absurd h (by simp)

theorem step_of_settle? (h : s.settle? = some t) : Step s .settle t := by
  unfold settle? at h
  split at h
  · next hreporting =>
      rw [report_eq] at h
      obtain rfl := Option.some.inj h
      exact .settle hreporting
  · exact absurd h (by simp)

theorem step_of_abortWorker? (h : s.abortWorker? = some t) : Step s .abortWorker t := by
  unfold abortWorker? at h
  split at h
  · next hended =>
      split at h
      · next hidle =>
          rw [closeOrders_eq] at h
          obtain rfl := Option.some.inj h
          have hstep := Step.abort hended (Or.inl hidle)
          rwa [hidle] at hstep
      · next order hcalling =>
          rw [closeOrders_eq] at h
          obtain rfl := Option.some.inj h
          have hstep := Step.abort hended (Or.inr ⟨order, hcalling⟩)
          rwa [hcalling] at hstep
      · exact absurd h (by simp)
  · exact absurd h (by simp)

theorem step_of_deliver? {inbox : Nat} {fails : Bool} (h : s.deliver? inbox fails = some t) :
    Step s (.deliver inbox fails) t := by
  unfold deliver? at h
  split at h
  · next box hfound =>
      split at h
      · next item rest hfront =>
          split at h
          · next hlive =>
              obtain rfl := Option.some.inj h
              exact .deliver hfound hfront hlive
          · exact absurd h (by simp)
      · exact absurd h (by simp)
  · exact absurd h (by simp)

theorem step_of_step? {a : Action} (h : s.step? a = some t) : Step s a t := by
  cases a with
  | submit what =>
      simp only [step?, submit?, Option.ite_none_right_eq_some, Option.some.injEq] at h
      obtain ⟨hopen, rfl⟩ := h
      exact .submit hopen
  | requestStop => exact Option.some.inj h ▸ .requestStop
  | dropCallers => exact Option.some.inj h ▸ .dropCallers
  | handle => exact step_of_handle? h
  | close =>
      simp only [step?, close?, Option.ite_none_right_eq_some, Option.some.injEq] at h
      obtain ⟨⟨hrunning, hstops⟩, rfl⟩ := h
      exact .close hrunning hstops
  | finish =>
      simp only [step?, finish?, Option.ite_none_right_eq_some, Option.some.injEq] at h
      obtain ⟨⟨hdraining, hhandled⟩, rfl⟩ := h
      exact .finish hdraining hhandled
  | reorder routes =>
      simp only [step?, Option.ite_none_right_eq_some, Option.some.injEq] at h
      obtain ⟨hperm, rfl⟩ := h
      exact .reorder (List.isPerm_iff.mp hperm)
  | start => exact step_of_start? h
  | answer outcome => exact step_of_answer? h
  | settle => exact step_of_settle? h
  | endWorker =>
      simp only [step?, endWorker?, Option.ite_none_right_eq_some, Option.some.injEq] at h
      obtain ⟨⟨hended, hidle, hdone⟩, rfl⟩ := h
      exact .endWorker hended hidle hdone
  | abortWorker => exact step_of_abortWorker? h
  | deliver inbox fails => exact step_of_deliver? h

theorem step?_of_step {a : Action} (h : Step s a t) : s.step? a = some t := by
  cases h with
  | submit hopen => simp [step?, submit?, hopen]
  | requestStop => rfl
  | dropCallers => rfl
  | handle hactive hfront =>
      unfold step? handle?
      rw [hfront]
      cases hphase : s.phase with
      | running => exact congrArg some (perform_eq _ _)
      | draining => exact congrArg some (perform_eq _ _)
      | ended => exact absurd hphase hactive
  | close hrunning hstops => simp only [step?, close?, hrunning, true_and, if_pos hstops]
  | finish hdraining hhandled => simp [step?, finish?, hdraining, hhandled]
  | reorder hperm => simp [step?, List.isPerm_iff.mpr hperm]
  | start hidle hfront => simp [step?, start?, hidle, hfront]
  | answer hcalling => simp [step?, answer?, hcalling]
  | settle hreporting => simp [step?, settle?, hreporting, report_eq]
  | endWorker hended hidle hdone => simp [step?, endWorker?, hended, hidle, hdone]
  | abort hended hwaiting =>
      rcases hwaiting with hidle | ⟨order, hcalling⟩
      · simp [step?, abortWorker?, hended, hidle, closeOrders_eq]
      · simp [step?, abortWorker?, hended, hcalling, closeOrders_eq]
  | deliver hfound hfront hlive => simp [step?, deliver?, hfound, hfront, hlive]

/-- `step?` computes the steps. -/
theorem step?_eq_some_iff {a : Action} : s.step? a = some t ↔ Step s a t :=
  ⟨step_of_step?, step?_of_step⟩

/-- A queue that takes callers' commands has a manager that runs. -/
theorem active_of_isOpen (isOpen : s.isOpen = true) : s.phase ≠ .ended := by
  intro hended
  simp [State.isOpen, hended] at isOpen

/-! ## Runs -/

theorem run?_append (s : State) (actions more : List Action) :
    s.run? (actions ++ more) = (s.run? actions).bind fun u => u.run? more := by
  induction actions generalizing s with
  | nil => rfl
  | cons a rest ih =>
      rw [List.cons_append, run?, run?]
      cases s.step? a with
      | none => rfl
      | some u => exact ih u

theorem run?_concat {actions : List Action} {a : Action} :
    s.run? (actions ++ [a]) = some t ↔ ∃ u, s.run? actions = some u ∧ Step u a t := by
  rw [run?_append, Option.bind_eq_some_iff]
  refine exists_congr fun u => and_congr_right fun _ => ?_
  rw [← step?_eq_some_iff]
  simp [run?]

/-- What holds at first and is kept by each step holds after every run. -/
theorem run_induction {holds : List Action → State → Prop} (initially : holds [] s)
    (kept : ∀ {actions a u t}, s.run? actions = some u → holds actions u → Step u a t →
      holds (actions ++ [a]) t)
    {actions : List Action} (run : s.run? actions = some t) : holds actions t := by
  induction actions using List.reverseRecOn generalizing t with
  | nil => exact Option.some.inj run ▸ initially
  | append_singleton actions a ih =>
      obtain ⟨u, hrun, hstep⟩ := run?_concat.mp run
      exact kept hrun (ih hrun) hstep

end State

end DeviceLink.Session
