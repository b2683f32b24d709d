import DeviceLink.Client.Rehearsal
import DeviceLink.Proofs.Client.Concrete
import Mathlib.Data.List.SplitBy

/-!
# A rehearsal is a run of the client

Every turn of a rehearsal is taken by steps of its session, so the states of the
session before and after any part of it belong to one run (`Rehearsal.Continues`).
What is proved of every run therefore holds of every script, and the requests that
the reports of a script show are those of such a run (`Rehearsal.script_is_run`).

A step of a script brings its own call.  The session is only asked through the
client if that call is one of the client's (`Step.UsesClient`).
-/

namespace DeviceLink.Client

open Session (State Action)

/-- The call of a step does nothing but what a client's call does. -/
def Step.UsesClient : Step → Prop
  | call make _ _ => ∀ s issued, make s = .ok issued → ∃ what, Submits s what issued.session
  | _ => True

theorem mapError_eq_ok_iff {ε ε' α : Type} {f : ε → ε'} {result : Except ε α} {a : α} :
    result.mapError f = .ok a ↔ result = .ok a := by
  cases result <;> simp [Except.mapError]

namespace Rehearsal

variable {r r' r'' : Rehearsal}

/-- A run of the client that leads to the one session can go on to the other. -/
def Continues (r r' : Rehearsal) : Prop :=
  ∀ actions, Run actions r.session → ∃ more, Run (actions ++ more) r'.session

namespace Continues

theorem of_eq (same : r'.session = r.session) : Continues r r' :=
  fun actions hrun => ⟨[], by rw [List.append_nil, same]; exact hrun⟩

theorem trans (first : Continues r r') (second : Continues r' r'') : Continues r r'' := by
  intro actions hrun
  obtain ⟨more, hmore⟩ := first actions hrun
  obtain ⟨rest, hrest⟩ := second _ hmore
  exact ⟨more ++ rest, by rwa [← List.append_assoc]⟩

/-! The rest of a rehearsal may be changed on the way. -/

theorem trans_eq (first : Continues r r') (same : r''.session = r'.session) : Continues r r'' :=
  first.trans (of_eq same)

theorem eq_trans (same : r'.session = r.session) (rest : Continues r' r'') : Continues r r'' :=
  (of_eq same).trans rest

theorem foldl {α : Type} {f : Rehearsal → α → Rehearsal} (each : ∀ r a, Continues r (f r a))
    (r : Rehearsal) (as : List α) : Continues r (as.foldl f r) := by
  induction as generalizing r with
  | nil => exact of_eq rfl
  | cons a rest ih => exact (each r a).trans (ih (f r a))

end Continues

/-! ## Steps of the session -/

@[simp] theorem session_wake (r : Rehearsal) (turn : Turn) : (r.wake turn).session = r.session := by
  unfold wake
  split <;> rfl

@[simp] theorem session_advance (r : Rehearsal) (after : State) :
    (r.advance after).session = after := by
  -- Whoever is woken, only the line changes.
  have hwoken : ∀ (inboxes : List Nat) (r : Rehearsal),
      (inboxes.foldl (fun r i => r.wake (.delivery i)) r).session = r.session := by
    intro inboxes
    induction inboxes with
    | nil => exact fun r => rfl
    | cons i rest ih => exact fun r => (ih _).trans (r.session_wake _)
  simp only [advance]
  split <;> split <;> simp [hwoken]

theorem continues_act (r : Rehearsal) (a : Action) (own : a.submission? = none) :
    Continues r (r.act a) := by
  intro actions hrun
  rw [act]
  cases hstep : r.session.step? a with
  | none => exact ⟨[], by rwa [List.append_nil]⟩
  | some after =>
      have hown : ∀ what, a ≠ .submit what := by
        rintro what rfl
        exact absurd own (by simp [Action.submission?])
      exact ⟨[a], by rw [session_advance]; exact hrun.step hown hstep⟩

theorem continues_advance (r : Rehearsal) {what : Session.Submission} {after : State}
    (submits : Submits r.session what after) : Continues r (r.advance after) :=
  fun _ hrun => ⟨[.submit what], by rw [session_advance]; exact hrun.call submits⟩

theorem continues_call (r : Rehearsal) {make : State → Except CallError Issued}
    {handler : Option Handler} {use : AckUse} (client : (Step.call make handler use).UsesClient) :
    Continues r (r.call make handler use).1 := by
  rw [call]
  cases hcall : make r.session with
  | error e => exact .of_eq rfl
  | ok issued =>
      obtain ⟨what, hsubmits⟩ := client _ _ hcall
      exact (r.continues_advance hsubmits).trans_eq rfl

/-! ## Turns -/

theorem continues_react (r : Rehearsal) (reaction : Reaction) : Continues r (r.react reaction) := by
  cases reaction with
  | fail => exact .of_eq rfl
  | subscribe topic qos reactions =>
      exact r.continues_call fun s issued hcall => ⟨_, .subscribe (mapError_eq_ok_iff.mp hcall)⟩
  | unsubscribe topic =>
      exact r.continues_call fun s issued hcall => ⟨_, .unsubscribe (mapError_eq_ok_iff.mp hcall)⟩
  | publish topic data qos =>
      refine r.continues_call fun s issued hcall => ?_
      have hpublish := mapError_eq_ok_iff.mp hcall
      obtain ⟨-, payload, hwritten, -⟩ := publish_eq_ok_iff.mp hpublish
      exact ⟨_, .publish hwritten hpublish⟩

theorem continues_deliver (r : Rehearsal) (inbox : Nat) : Continues r (r.deliver inbox) := by
  simp only [deliver]
  split
  · next box handler hbox hhandler =>
      split
      · exact .of_eq rfl
      · have hcalled := r.continues_act (.deliver inbox (!handler.reactions.all returns)) rfl
        refine Continues.trans ?_ (.foldl continues_react _ _)
        exact hcalled.trans_eq rfl
  · exact .of_eq rfl

theorem continues_deliveryTurn (r : Rehearsal) (inbox : Nat) :
    Continues r (r.deliveryTurn inbox) :=
  .foldl (fun r _ => r.continues_deliver inbox) r _

theorem continues_managerTurn (r : Rehearsal) : Continues r r.managerTurn := by
  have hhandles : Continues r ((List.range r.session.commands.length).foldl
      (fun r _ => r.act .handle) r) := .foldl (fun r _ => r.continues_act .handle rfl) r _
  have hends := (hhandles.trans (continues_act _ .close rfl)).trans (continues_act _ .finish rfl)
  simp only [managerTurn]
  split
  · exact hends.trans_eq (session_wake _ _)
  · exact hends

theorem continues_returnCall (returned : r.returnCall = some r') : Continues r r' := by
  have hreturns : ∀ (r : Rehearsal) (outcome : Outcome),
      Continues r ((r.act (.answer outcome)).act .settle) :=
    fun r outcome => (r.continues_act (.answer outcome) rfl).trans (continues_act _ .settle rfl)
  simp only [returnCall] at returned
  split at returned
  · split at returned
    · split at returned
      · obtain rfl := Option.some.inj returned
        exact hreturns r _
      · split at returned
        · obtain rfl := Option.some.inj returned
          exact @Continues.eq_trans r { r with permits := r.permits - 1 } _ rfl (hreturns _ _)
        · exact absurd returned nofun
    · obtain rfl := Option.some.inj returned
      exact hreturns r _
  · obtain rfl := Option.some.inj returned
    exact .of_eq rfl

theorem continues_makeCalls (left : Nat) (r : Rehearsal) : Continues r (makeCalls left r) := by
  induction left generalizing r with
  | zero => exact .of_eq rfl
  | succ left ih =>
      rw [makeCalls]
      cases hreturned : r.returnCall with
      | none => exact .of_eq rfl
      | some r' =>
          exact ((continues_returnCall hreturned).trans (r'.continues_act .start rfl)).trans (ih _)

theorem continues_takeTurn (r : Rehearsal) : Continues r r.takeTurn := by
  rw [takeTurn]
  cases r.line with
  | nil => exact .of_eq rfl
  | cons turn rest =>
      refine @Continues.eq_trans r { r with line := rest } _ rfl ?_
      cases turn with
      | manager => exact continues_managerTurn _
      | worker => exact (continues_makeCalls _ _).trans (continues_act _ .endWorker rfl)
      | delivery inbox => exact continues_deliveryTurn _ inbox

theorem continues_settle (left : Nat) (r : Rehearsal) : Continues r (settle left r) := by
  induction left generalizing r with
  | zero => exact .of_eq rfl
  | succ left ih =>
      rw [settle]
      split
      · exact .of_eq rfl
      · exact r.continues_takeTurn.trans (ih _)

/-! ## Scripts -/

theorem continues_stop (r : Rehearsal) : Continues r r.stop :=
  (r.continues_act .requestStop rfl).trans_eq (session_wake _ _)

theorem continues_perform (r : Rehearsal) {step : Step} (client : step.UsesClient) :
    Continues r (r.perform step).1 := by
  cases step with
  | call make handler use =>
      rw [perform]
      split
      · exact r.continues_call client
      · exact .of_eq rfl
  | dispatch topic payload =>
      rw [perform]
      split
      · cases hcall : Client.dispatch r.session topic payload with
        | error e => exact .of_eq rfl
        | ok after => exact r.continues_advance (.dispatch hcall)
      · exact .of_eq rfl
  | sessionRestored present =>
      simp only [perform]
      refine @Continues.eq_trans r { r with tableOrdered := true } _ rfl ?_
      -- A connection that has kept its session is no step.
      split
      · split
        · next after hcall =>
            cases present with
            | true => exact .of_eq ((session_advance _ _).trans (Except.ok.inj hcall).symm)
            | false => exact continues_advance _ (.sessionRestored hcall)
        · exact .of_eq rfl
      · exact .of_eq rfl
  | release permits => exact .of_eq (session_wake _ _)
  | inspect ack => rw [perform]; split <;> exact .of_eq rfl
  | complete ack => rw [perform]; split <;> exact .of_eq rfl
  | shutdown =>
      rw [perform]
      split
      · exact ((r.continues_stop.trans (continues_settle _ _)).trans
          (continues_act _ .abortWorker rfl)).trans (continues_settle _ _)
      · exact .of_eq rfl
  | dropSession => exact r.continues_stop
  | dropAll =>
      have hstop : Continues r { r.stop with hasClient := false } := r.continues_stop.trans_eq rfl
      simp only [perform]
      split
      · exact hstop
      · exact hstop.trans (continues_act _ .dropCallers rfl)
  | refuse topic error => exact .of_eq rfl
  | heal topic => exact .of_eq rfl

theorem continues_performAll (r : Rehearsal) {steps : List Step}
    (client : ∀ step ∈ steps, step.UsesClient) : Continues r (r.performAll steps).1 := by
  induction steps generalizing r with
  | nil => exact .of_eq rfl
  | cons step rest ih =>
      exact (r.continues_perform (client step List.mem_cons_self)).trans
        (ih _ fun step hstep => client step (List.mem_cons_of_mem _ hstep))

theorem session_take (r : Rehearsal) (steps : List Step) : (r.take steps).1.session =
    (settle turnLimit ({ r with deliveries := [] }.performAll steps).1).session := by
  cases hperformed : ({ r with deliveries := [] } : Rehearsal).performAll steps with
  | mk performed replies => simp only [take, hperformed]

theorem continues_take (r : Rehearsal) {steps : List Step}
    (client : ∀ step ∈ steps, step.UsesClient) : Continues r (r.take steps).1 := by
  have hperformed := continues_performAll { r with deliveries := [] } client
  refine @Continues.eq_trans r { r with deliveries := [] } _ rfl ?_
  exact (hperformed.trans (continues_settle turnLimit _)).trans_eq (r.session_take steps)

def after (r : Rehearsal) : List (List Step) → Rehearsal
  | [] => r
  | steps :: rest => (r.take steps).1.after rest

theorem continues_after (r : Rehearsal) {script : List (List Step)}
    (client : ∀ steps ∈ script, ∀ step ∈ steps, step.UsesClient) :
    Continues r (r.after script) := by
  induction script generalizing r with
  | nil => exact .of_eq rfl
  | cons steps rest ih =>
      exact (r.continues_take (client steps List.mem_cons_self)).trans
        (ih _ fun steps hsteps => client steps (List.mem_cons_of_mem _ hsteps))

/-! ## Reports -/

theorem calls_prefix {s t : State} {more : List Action} (run : s.run? more = some t) :
    s.calls <+: t.calls := by
  refine @State.run_induction _ _ (fun _ t => s.calls <+: t.calls) (List.prefix_refl _) ?_ _ run
  intro actions a u v hrun hprefix hstep
  refine hprefix.trans ?_
  cases hstep with
  | start hidle hfront => exact List.prefix_append _ _
  | _ => exact List.prefix_refl _

theorem Continues.calls_prefix (continues : Continues r r') {actions : List Action}
    (run : Run actions r.session) : r.session.calls <+: r'.session.calls := by
  obtain ⟨more, hmore⟩ := continues actions run
  have hwhole := run?_of_run hmore
  rw [State.run?_append, run?_of_run run] at hwhole
  exact Rehearsal.calls_prefix hwhole

theorem normalise_perm (calls : List TransportCall) : (normalise calls).Perm calls := by
  let runs := calls.splitBy fun a b => CallKind.of a = CallKind.of b
  have hflatten : runs.flatten = calls := List.flatten_splitBy _ _
  -- Run by run, because no request leaves the run that it stands in.
  suffices heach : (normalise calls).Perm runs.flatten by rwa [hflatten] at heach
  refine List.Perm.flatten_congr (List.forall₂_map_left_iff.mpr (List.forall₂_same.mpr ?_))
  intro run _
  split
  · exact List.mergeSort_perm run callLE
  · exact List.Perm.refl run

theorem calls_take (r : Rehearsal) (steps : List Step) : (r.take steps).2.calls.Perm
    ((r.take steps).1.session.calls.drop r.session.calls.length) := by
  simp only [take]
  split
  · exact normalise_perm _
  · exact List.Perm.refl _

theorem calls_run {script : List (List Step)} {actions : List Action}
    (run : Run actions r.session)
    (client : ∀ steps ∈ script, ∀ step ∈ steps, step.UsesClient) :
    (r.session.calls ++ (r.run script).flatMap Report.calls).Perm
      (r.after script).session.calls := by
  induction script generalizing r actions with
  | nil => simp [Rehearsal.run, after]
  | cons steps rest ih =>
      have hfirst := r.continues_take (client steps List.mem_cons_self)
      obtain ⟨more, hmore⟩ := hfirst actions run
      obtain ⟨made, hmade⟩ := hfirst.calls_prefix run
      -- The report of the first steps shows what the run has made since, and nothing from before.
      have hreported := r.calls_take steps
      rw [← hmade, List.drop_left] at hreported
      have hrest := ih hmore fun steps hsteps => client steps (List.mem_cons_of_mem _ hsteps)
      rw [← hmade, List.append_assoc] at hrest
      rw [Rehearsal.run, List.flatMap_cons]
      exact ((hreported.append_right _).append_left _).trans hrest

/-- A script is a run of the client, and its reports show the requests of that run;
only those that the session made from its table may stand in another order. -/
theorem script_is_run (gated : Bool) {script : List (List Step)}
    (client : ∀ steps ∈ script, ∀ step ∈ steps, step.UsesClient) :
    ∃ actions, Run actions (({ gated } : Rehearsal).after script).session ∧
      ((({ gated } : Rehearsal).run script).flatMap Report.calls).Perm
        (({ gated } : Rehearsal).after script).session.calls := by
  have hstart : Run [] ({ gated } : Rehearsal).session := .start
  obtain ⟨more, hmore⟩ := continues_after _ client _ hstart
  exact ⟨more, hmore, calls_run hstart client⟩

end Rehearsal

end DeviceLink.Client
