import DeviceLink.Ack.Cell

/-!
# What holds of an acknowledgement at any moment

Any number of completers, the holder of the acknowledgement and its callback act
on one cell in any order (`Cell.after`).  A first outcome stays, and at most one
attempt is told that it was the first.  A callback never waits in a resolved
cell, a side that has learned an outcome has learned the one that is there, and
an unresolved cell always has someone left who can resolve it (`Cell.Sound`).
-/

namespace DeviceLink.Ack

def Consumer.hasLearned : Consumer → Bool
  | running _ | gone => true
  | holder | callback _ | due _ _ | dropped => false

def Reply.outcome? : Reply → Option Outcome
  | ready outcome => some outcome
  | _ => none

@[simp] theorem Reply.outcome?_ready (outcome : Outcome) :
    (ready outcome).outcome? = some outcome := rfl

def Event.won? : Event → Reply → Option Outcome
  | complete _ result, .completed true => some result
  | _, _ => none

namespace Cell

def after (c : Cell) : List Event → Cell
  | [] => c
  | e :: rest => (c.step e).1.after rest

/-- What the waiting side is told in the course of some events. -/
def told (c : Cell) : List Event → List Outcome
  | [] => []
  | e :: rest => (c.step e).2.outcome?.toList ++ (c.step e).1.told rest

/-- The results of the attempts that are told to be the first in the course of some
events. -/
def won (c : Cell) : List Event → List Outcome
  | [] => []
  | e :: rest => (e.won? (c.step e).2).toList ++ (c.step e).1.won rest

theorem told_append (c : Cell) (events more : List Event) :
    c.told (events ++ more) = c.told events ++ (c.after events).told more := by
  induction events generalizing c with
  | nil => rfl
  | cons e rest ih =>
      rw [List.cons_append, told, told, after, ih, List.append_assoc]

/-! ## Resolving -/

theorem resolve_of_resolved {c : Cell} {o : Outcome} (resolved : c.outcome = some o)
    (result : Outcome) : c.resolve result = (c, false) := by
  rw [resolve, if_pos (by rw [isResolved, resolved]; rfl)]

/-- An attempt wins if the cell is unresolved; a callback that waits is due then. -/
theorem resolve_of_unresolved {c : Cell} (unresolved : c.outcome = none) (result : Outcome) :
    c.resolve result = ({ c with
      outcome := some result
      consumer := match c.consumer with
        | .callback owns => .due owns result
        | other => other }, true) := by
  rw [resolve, if_neg (by rw [isResolved, unresolved]; simp)]
  cases hconsumer : c.consumer <;> rfl

theorem outcome_resolve (c : Cell) (result : Outcome) :
    (c.resolve result).1.outcome = some (c.outcome.getD result) ∧
      (c.resolve result).2 = c.outcome.isNone := by
  cases houtcome : c.outcome with
  | none =>
      rw [resolve_of_unresolved houtcome]
      exact ⟨rfl, rfl⟩
  | some o =>
      rw [resolve_of_resolved houtcome]
      exact ⟨houtcome, rfl⟩

/-- Closing an abandoned cell leaves a resolved one as it is. -/
theorem closeIfAbandoned_of_resolved {c : Cell} {o : Outcome} (resolved : c.outcome = some o) :
    c.closeIfAbandoned = c := by
  rw [closeIfAbandoned, resolve_of_resolved resolved, ite_self]

/-! ## The invariant -/

/-- What each state of the waiting side says about the outcome, and about what
this side has been told. -/
structure Consistent (c : Cell) (told : List Outcome) : Prop where
  waiting : ∀ owns, c.consumer = .callback owns → c.outcome = none
  due : ∀ owns o, c.consumer = .due owns o → c.outcome = some o
  learned : c.consumer.hasLearned = true → ∃ o, c.outcome = some o ∧ told = [o]
  unlearned : c.consumer.hasLearned = false → told = []

/-- Moreover someone is left who can resolve a cell that is not resolved. -/
structure Sound (c : Cell) (told : List Outcome) : Prop extends Consistent c told where
  inUse : c.outcome = none → c.isAbandoned = false

namespace Consistent

variable {c : Cell} {told : List Outcome}

/-- A side that has learned an outcome has a resolved cell. -/
theorem not_learned (consistent : Consistent c told) (unresolved : c.outcome = none) :
    c.consumer.hasLearned = false := by
  cases hlearned : c.consumer.hasLearned with
  | true =>
      obtain ⟨o, ho, -⟩ := consistent.learned hlearned
      exact absurd (ho.symm.trans unresolved) (by simp)
  | false => rfl

/-- The completers are of no account. -/
theorem withCompleters (consistent : Consistent c told) (completers : List Bool) :
    Consistent { c with completers := completers } told :=
  ⟨consistent.waiting, consistent.due, consistent.learned, consistent.unlearned⟩

theorem resolve (consistent : Consistent c told) (result : Outcome) :
    Consistent (c.resolve result).1 told := by
  cases houtcome : c.outcome with
  | some o =>
      rw [resolve_of_resolved houtcome]
      exact consistent
  | none =>
      rw [resolve_of_unresolved houtcome]
      have hlearned : c.consumer.hasLearned = false := consistent.not_learned houtcome
      have htold : told = [] := consistent.unlearned hlearned
      cases hconsumer : c.consumer with
      | holder => exact ⟨by simp, by simp, by simp [Consumer.hasLearned], fun _ => htold⟩
      | dropped => exact ⟨by simp, by simp, by simp [Consumer.hasLearned], fun _ => htold⟩
      | callback owns =>
          refine ⟨by simp, ?_, by simp [Consumer.hasLearned], fun _ => htold⟩
          rintro owns' o hsame
          exact congrArg some (Consumer.due.inj hsame).2
      | due owns o =>
          exact absurd ((consistent.due owns o hconsumer).symm.trans houtcome) (by simp)
      | running _ | gone => exact absurd hlearned (by rw [hconsumer]; simp [Consumer.hasLearned])

/-- Closing an abandoned cell is all that is missing for it to be sound. -/
theorem closeIfAbandoned (consistent : Consistent c told) : Sound c.closeIfAbandoned told := by
  rw [Cell.closeIfAbandoned]
  cases habandoned : c.isAbandoned with
  | true =>
      refine ⟨consistent.resolve _, fun hnone => ?_⟩
      exact absurd ((c.outcome_resolve _).1.symm.trans hnone) (by simp)
  | false => exact ⟨consistent, fun _ => habandoned⟩

/-- A waiting side that has learned the outcome and lets go of what it holds has
learned it all the same. -/
theorem stillLearned (consistent : Consistent c told) (learned : c.consumer.hasLearned = true)
    {consumer : Consumer} (still : consumer.hasLearned = true) :
    Consistent { c with consumer := consumer } told := by
  refine ⟨?_, ?_, fun _ => consistent.learned learned, ?_⟩
  · rintro owns rfl
    exact absurd still (by simp [Consumer.hasLearned])
  · rintro owns o rfl
    exact absurd still (by simp [Consumer.hasLearned])
  · exact fun hunlearned => absurd (still.symm.trans hunlearned) (by simp)

end Consistent

namespace Sound

variable {c : Cell} {told : List Outcome}

theorem initial : Sound {} [] :=
  ⟨⟨by simp, by simp, by simp [Consumer.hasLearned], fun _ => rfl⟩, fun _ => rfl⟩

theorem of_resolved {o : Outcome} (resolved : c.outcome = some o)
    (consistent : Consistent c told) : Sound c told :=
  ⟨consistent, fun hnone => absurd (resolved.symm.trans hnone) (by simp)⟩

/-- One that holds the acknowledgement has been told nothing, and nothing but the
completers outside keeps a cell open for it. -/
theorem of_holder (sound : Sound c told) (holder : c.consumer = .holder) :
    told = [] ∧ (c.outcome = none → c.completers.any id = true) := by
  refine ⟨sound.unlearned (by rw [holder]; rfl), fun hnone => ?_⟩
  simpa [isAbandoned, callbackOwnsCompleter, holder] using sound.inUse hnone

theorem release (sound : Sound c told) {i : Completer} (live : c.hasCompleter i = true) :
    Sound (c.release i) told := by
  cases i with
  | held i => exact (sound.withCompleters _).closeIfAbandoned
  | owned =>
      have hrunning : c.consumer = .running true := of_decide_eq_true live
      exact (sound.stillLearned (by rw [hrunning]; rfl) rfl).closeIfAbandoned

/-- An answer without an outcome tells the waiting side nothing. -/
theorem untold (sound : Sound c told) {reply : Reply} (silent : reply.outcome? = none) :
    Sound c (told ++ reply.outcome?.toList) := by
  rw [silent, Option.toList_none, List.append_nil]
  exact sound

theorem step_poll (sound : Sound c told) :
    Sound (c.step .poll).1 (told ++ (c.step .poll).2.outcome?.toList) := by
  rw [Cell.step]
  split
  · next o hholder hsome =>
      rw [(sound.of_holder hholder).1]
      exact of_resolved hsome
        ⟨by simp, by simp, fun _ => ⟨o, hsome, rfl⟩, by simp [Consumer.hasLearned]⟩
  · exact sound.untold rfl
  · exact sound.untold rfl

/-- A callback that is left in a resolved cell is due, in another one it waits. -/
theorem step_onComplete (sound : Sound c told) (owned : Option Completer) :
    Sound (c.step (.onComplete owned)).1
      (told ++ (c.step (.onComplete owned)).2.outcome?.toList) := by
  rw [Cell.step]
  split
  · next o hholder hsome =>
      rw [(sound.of_holder hholder).1]
      refine of_resolved hsome ⟨by simp, ?_, by simp [Consumer.hasLearned], fun _ => rfl⟩
      rintro owns' o' hsame
      exact hsome.trans (congrArg some (Consumer.due.inj hsame).2)
  · next hholder hnone =>
      rw [(sound.of_holder hholder).1]
      refine ⟨⟨fun _ _ => hnone, by simp, by simp [Consumer.hasLearned], fun _ => rfl⟩,
        fun _ => ?_⟩
      simp [isAbandoned, (sound.of_holder hholder).2 hnone]
  · exact sound.untold rfl

theorem step_dropAck (sound : Sound c told) :
    Sound (c.step .dropAck).1 (told ++ (c.step .dropAck).2.outcome?.toList) := by
  rw [Cell.step]
  split
  · next hholder =>
      rw [(sound.of_holder hholder).1]
      refine ⟨⟨by simp, by simp, by simp [Consumer.hasLearned], fun _ => rfl⟩, fun hnone => ?_⟩
      simp [isAbandoned, (sound.of_holder hholder).2 hnone]
  · exact sound.untold rfl

/-- Every event keeps the invariant. -/
theorem step (sound : Sound c told) (e : Event) :
    Sound (c.step e).1 (told ++ (c.step e).2.outcome?.toList) := by
  cases e with
  | clone i =>
      rw [Cell.step]
      split
      · exact untold ⟨sound.withCompleters _, fun _ => by simp [isAbandoned]⟩ rfl
      · exact sound.untold rfl
  | complete i result =>
      rw [Cell.step]
      split
      · exact (of_resolved (c.outcome_resolve result).1 (sound.resolve result)).untold rfl
      · exact sound.untold rfl
  | query i => rw [Cell.step]; split <;> exact sound.untold rfl
  | drop i =>
      rw [Cell.step]
      split
      · next hlive => exact (sound.release hlive).untold rfl
      · exact sound.untold rfl
  | inspect => rw [Cell.step]; split <;> exact sound.untold rfl
  | poll => exact sound.step_poll
  | onComplete owned => exact sound.step_onComplete owned
  | dropAck => exact sound.step_dropAck
  | call =>
      rw [Cell.step]
      split
      · next owns o hdue =>
          have hsome : c.outcome = some o := sound.due owns o hdue
          rw [sound.unlearned (by rw [hdue]; rfl)]
          exact of_resolved hsome
            ⟨by simp, by simp, fun _ => ⟨o, hsome, rfl⟩, by simp [Consumer.hasLearned]⟩
      · exact sound.untold rfl
  | finish =>
      rw [Cell.step]
      split
      · next owns hrunning =>
          exact (sound.stillLearned (by rw [hrunning]; rfl) rfl).closeIfAbandoned.untold rfl
      · exact sound.untold rfl

end Sound

theorem sound_after {c : Cell} {told : List Outcome} (sound : Sound c told)
    (events : List Event) : Sound (c.after events) (told ++ c.told events) := by
  induction events generalizing c told with
  | nil => rw [Cell.told, List.append_nil]; exact sound
  | cons e rest ih =>
      rw [Cell.told, ← List.append_assoc]
      exact ih (sound.step e)

/-! ## A resolved cell stays as it is -/

theorem outcome_closeIfAbandoned (c : Cell) :
    c.closeIfAbandoned.outcome =
      if c.isAbandoned then some (c.outcome.getD (.error .connectionClosed)) else c.outcome := by
  rw [closeIfAbandoned]
  split
  · exact (c.outcome_resolve _).1
  · rfl

theorem outcome_step_of_resolved {c : Cell} {o : Outcome} (resolved : c.outcome = some o)
    (e : Event) : (c.step e).1.outcome = some o := by
  have hclose : ∀ c' : Cell, c'.outcome = some o → c'.closeIfAbandoned.outcome = some o :=
    fun c' h => by rw [closeIfAbandoned_of_resolved h, h]
  cases e with
  | complete i result =>
      rw [step]
      split
      · rw [resolve_of_resolved resolved]
        exact resolved
      · exact resolved
  | drop i =>
      rw [step]
      split
      · cases i with
        | held i => exact hclose _ resolved
        | owned => exact hclose _ resolved
      · exact resolved
  | finish =>
      rw [step]
      split
      · exact hclose _ resolved
      · exact resolved
  | clone i | query i | inspect | poll | onComplete owned | dropAck | call =>
      rw [step]
      split <;> exact resolved

theorem outcome_after_of_resolved {c : Cell} {o : Outcome} (resolved : c.outcome = some o)
    (events : List Event) : (c.after events).outcome = some o := by
  induction events generalizing c with
  | nil => exact resolved
  | cons e rest ih => exact ih (outcome_step_of_resolved resolved e)

/-- What an attempt made of the cell, and what it was told. -/
theorem step_complete {c : Cell} {i : Completer} (live : c.hasCompleter i = true)
    (result : Outcome) :
    (c.step (.complete i result)).1.outcome = some (c.outcome.getD result) ∧
      (c.step (.complete i result)).2 = .completed c.outcome.isNone := by
  rw [step, if_pos live]
  exact ⟨(c.outcome_resolve result).1, congrArg Reply.completed (c.outcome_resolve result).2⟩

/-- An attempt that was told to be the first has resolved the cell. -/
theorem won?_eq_some {c : Cell} {e : Event} {o : Outcome}
    (won : e.won? (c.step e).2 = some o) : c.outcome = none ∧ (c.step e).1.outcome = some o := by
  cases e with
  | complete i result =>
      cases hlive : c.hasCompleter i with
      | true =>
          obtain ⟨houtcome, hreply⟩ := step_complete hlive result
          rw [hreply] at won
          cases hnone : c.outcome with
          | none =>
              rw [hnone] at won houtcome
              exact ⟨rfl, houtcome.trans won⟩
          | some o' => exact absurd won (by simp [hnone, Event.won?])
      | false => exact absurd won (by simp [step, hlive, Event.won?])
  | clone i | query i | drop i | inspect | poll | onComplete owned | dropAck | call | finish =>
      exact absurd won (by simp [Event.won?])

theorem won_of_resolved {c : Cell} {o : Outcome} (resolved : c.outcome = some o)
    (events : List Event) : c.won events = [] := by
  induction events generalizing c with
  | nil => rfl
  | cons e rest ih =>
      rw [won, ih (outcome_step_of_resolved resolved e)]
      cases hwon : e.won? (c.step e).2 with
      | none => rfl
      | some o' => exact absurd ((won?_eq_some hwon).1.symm.trans resolved) (by simp)

/-- At most one attempt is ever told to be the first, and its result is the outcome. -/
theorem won_at_most_once (c : Cell) (events : List Event) :
    c.won events = [] ∨ ∃ o, c.won events = [o] ∧ (c.after events).outcome = some o := by
  induction events generalizing c with
  | nil => exact .inl rfl
  | cons e rest ih =>
      rw [won, after]
      cases hwon : e.won? (c.step e).2 with
      | none => exact ih (c.step e).1
      | some o =>
          have hresolved := (won?_eq_some hwon).2
          rw [won_of_resolved hresolved]
          exact .inr ⟨o, rfl, outcome_after_of_resolved hresolved rest⟩

end Cell
end DeviceLink.Ack
