import DeviceLink.Proofs.Ack.Invariant

/-!
# An acknowledgement is resolved once and told once

Whatever the completers, the holder of the acknowledgement and its callback do,
and in whatever order: the first attempt wins, every later one fails, and
dropping the last completer counts as an attempt (`Cell.ResolvesOnce`).  The
waiting side is told that outcome and no other, once, and can be sure to be told
unless it has dropped the acknowledgement (`Cell.TellsOnce`).
-/

namespace DeviceLink.Ack

def Event.ofCompleter : Event → Bool
  | clone _ | complete _ _ | query _ | drop _ => true
  | inspect | poll | onComplete _ | dropAck | call | finish => false

namespace Cell

/-! ## Cloning and dropping -/

theorem hasCompleter_resolve (c : Cell) (result : Outcome) (j : Completer) :
    (c.resolve result).1.hasCompleter j = c.hasCompleter j := by
  cases houtcome : c.outcome with
  | some o => rw [resolve_of_resolved houtcome]
  | none =>
      rw [resolve_of_unresolved houtcome]
      cases j with
      | held j => rfl
      | owned => cases hconsumer : c.consumer <;> simp [hasCompleter, hconsumer]

theorem hasCompleter_closeIfAbandoned (c : Cell) (j : Completer) :
    c.closeIfAbandoned.hasCompleter j = c.hasCompleter j := by
  rw [closeIfAbandoned]
  split
  · exact c.hasCompleter_resolve _ j
  · rfl

theorem hasCompleter_set (c : Cell) (i j : Nat) :
    hasCompleter { c with completers := c.completers.set i false } (.held j) =
      (c.hasCompleter (.held j) && decide (j ≠ i)) := by
  rw [hasCompleter, hasCompleter, List.getElem?_set]
  by_cases hij : i = j
  · subst hij
    rw [if_pos rfl]
    split <;> simp
  · rw [if_neg hij]
    simp [Ne.symm hij]

/-- A clone is one more completer. -/
theorem hasCompleter_clone {c : Cell} {i : Completer} (live : c.hasCompleter i = true)
    (j : Completer) : (c.step (.clone i)).1.hasCompleter j =
      (c.hasCompleter j || decide (j = .held c.completers.length)) := by
  rw [step, if_pos live]
  cases j with
  | owned => simp [hasCompleter]
  | held j =>
      simp only [hasCompleter, Completer.held.injEq]
      rcases Nat.lt_trichotomy j c.completers.length with hold | rfl | hnone
      · simp [List.getElem?_append_left hold, Nat.ne_of_lt hold]
      · simp
      · have hold : c.completers[j]? = none := List.getElem?_eq_none (Nat.le_of_lt hnone)
        have hnew : (c.completers ++ [true])[j]? = none :=
          List.getElem?_eq_none (by rw [List.length_append]; exact hnone)
        simp [hold, hnew, Nat.ne_of_gt hnone]

/-- Whoever drops a completer loses that one. -/
theorem hasCompleter_drop {c : Cell} {i : Completer} (live : c.hasCompleter i = true)
    (j : Completer) :
    (c.step (.drop i)).1.hasCompleter j = (c.hasCompleter j && decide (j ≠ i)) := by
  rw [step, if_pos live]
  cases i with
  | held i =>
      rw [release, hasCompleter_closeIfAbandoned]
      cases j with
      | held j => simpa using c.hasCompleter_set i j
      | owned => simp [hasCompleter]
  | owned =>
      -- The callback goes on running without its completer.
      rw [release, hasCompleter_closeIfAbandoned]
      cases j with
      | held j => simp [hasCompleter]
      | owned => simp [hasCompleter]

/-- Nothing else makes a completer or takes one away. -/
theorem hasCompleter_step (c : Cell) {e : Event} (noClone : ∀ i, e ≠ .clone i)
    (noDrop : ∀ i, e ≠ .drop i) (j : Nat) : (c.step e).1.hasCompleter j = c.hasCompleter j := by
  cases e with
  | clone i => exact absurd rfl (noClone i)
  | drop i => exact absurd rfl (noDrop i)
  | complete i result =>
      rw [step]
      split
      · exact c.hasCompleter_resolve result j
      · rfl
  | finish =>
      rw [step]
      split
      · exact hasCompleter_closeIfAbandoned _ j
      · rfl
  | query i | inspect | poll | onComplete owned | dropAck | call => rw [step]; split <;> rfl

/-! ## The last completer -/

/-- Whether a completer is the last one, in anybody's hands or with a callback that
waits. -/
def IsLast (c : Cell) (i : Completer) : Prop :=
  (∀ j, c.hasCompleter j = true → j = i) ∧ c.consumer ≠ .callback true

theorem any_completers_eq_false {c : Cell} :
    c.completers.any id = false ↔ ∀ j, c.hasCompleter (.held j) = false := by
  rw [List.any_eq_false]
  refine ⟨fun hall j => ?_, fun hall b hb => ?_⟩
  · rw [hasCompleter]
    cases hj : c.completers[j]? with
    | none => rfl
    | some b => simpa using hall b (List.mem_of_getElem? hj)
  · obtain ⟨j, hj⟩ := List.getElem?_of_mem hb
    have hcompleter := hall j
    rw [hasCompleter, hj] at hcompleter
    simpa using hcompleter

namespace Sound

variable {c : Cell} {told : List Outcome}

/-- In an unresolved cell a callback that owns a completer is one that waits. -/
theorem callbackOwns_iff (sound : Sound c told) (unresolved : c.outcome = none) :
    c.callbackOwnsCompleter = true ↔ c.consumer = .callback true := by
  have hlearned := sound.not_learned unresolved
  rw [callbackOwnsCompleter]
  cases hconsumer : c.consumer with
  | holder | gone | dropped => simp
  | callback owns => simp
  | running owns => exact absurd hlearned (by rw [hconsumer]; simp [Consumer.hasLearned])
  | due owns o =>
      exact absurd ((sound.due owns o hconsumer).symm.trans unresolved) (by simp)

/-- No callback runs in an unresolved cell, so completers are in other hands. -/
theorem hasCompleter_owned (sound : Sound c told) (unresolved : c.outcome = none) :
    c.hasCompleter .owned = false := by
  have hlearned := sound.not_learned unresolved
  rw [hasCompleter, decide_eq_false_iff_not]
  intro hrunning
  rw [hrunning] at hlearned
  exact absurd hlearned (by simp [Consumer.hasLearned])

/-- Someone is left who can resolve an unresolved cell. -/
theorem exists_completer (sound : Sound c told) (unresolved : c.outcome = none) :
    (∃ i, c.hasCompleter i = true) ∨ c.consumer = .callback true := by
  rw [← sound.callbackOwns_iff unresolved]
  have hinUse := sound.inUse unresolved
  rw [isAbandoned] at hinUse
  cases howns : c.callbackOwnsCompleter with
  | true => exact .inr rfl
  | false =>
      left
      refine Classical.byContradiction fun hnobody => ?_
      have hany : c.completers.any id = false :=
        any_completers_eq_false.mpr fun j => by
          cases hj : c.hasCompleter (.held j) with
          | true => exact absurd ⟨_, hj⟩ hnobody
          | false => rfl
      rw [howns, hany] at hinUse
      exact absurd hinUse (by simp)

theorem isLast_iff (sound : Sound c told) (unresolved : c.outcome = none) (i : Nat) :
    c.IsLast (.held i) ↔
      isAbandoned { c with completers := c.completers.set i false } = true := by
  rw [isAbandoned, Bool.and_eq_true, Bool.not_eq_true', Bool.not_eq_true',
    any_completers_eq_false, IsLast, ← Bool.not_eq_true (callbackOwnsCompleter _)]
  refine and_congr ?_ (not_congr (sound.callbackOwns_iff unresolved)).symm
  constructor
  · intro honly j
    rw [hasCompleter_set]
    cases hj : c.hasCompleter (.held j) with
    | true => simpa using honly _ hj
    | false => rfl
  · intro hnone j hj
    cases j with
    | owned => exact absurd (hj.symm.trans (sound.hasCompleter_owned unresolved)) (by simp)
    | held j =>
        have hset := hnone j
        rw [hasCompleter_set, hj, Bool.true_and] at hset
        rw [Classical.not_not.mp (of_decide_eq_false hset)]

/-- Dropping a completer resolves the cell exactly if it was the last one. -/
theorem outcome_drop (sound : Sound c told) (unresolved : c.outcome = none) {i : Completer}
    (live : c.hasCompleter i = true) (o : Outcome) :
    (c.step (.drop i)).1.outcome = some o ↔ c.IsLast i ∧ o = .error .connectionClosed := by
  cases i with
  | owned => exact absurd (live.symm.trans (sound.hasCompleter_owned unresolved)) (by simp)
  | held i =>
      rw [Cell.step, if_pos live, Cell.release, outcome_closeIfAbandoned,
        sound.isLast_iff unresolved, unresolved]
      split
      · next habandoned =>
          rw [habandoned]
          exact ⟨fun h => ⟨rfl, (Option.some.inj h).symm⟩, fun h => congrArg some h.2.symm⟩
      · next hinUse =>
          exact ⟨fun h => absurd h (by simp), fun h => absurd h.1 hinUse⟩

end Sound

/-! ## The waiting side -/

/-- Only a callback that runs can use the completer that it owns. -/
theorem not_hasCompleter_owned {c : Cell} (idle : c.consumer ≠ .running true) :
    c.hasCompleter .owned ≠ true :=
  fun hlive => idle (of_decide_eq_true hlive)

/-- A waiting callback is due as soon as the cell is resolved. -/
def Follows (c : Cell) (owns : Bool) : Prop :=
  c.consumer = match c.outcome with
    | some o => .due owns o
    | none => .callback owns

theorem follows_resolve {c : Cell} {owns : Bool} (waiting : c.consumer = .callback owns)
    (unresolved : c.outcome = none) (result : Outcome) : (c.resolve result).1.Follows owns := by
  rw [resolve_of_unresolved unresolved, waiting]
  rfl

theorem follows_step {c : Cell} {owns : Bool} (waiting : c.consumer = .callback owns)
    (unresolved : c.outcome = none) (e : Event) : (c.step e).1.Follows owns := by
  have hstays : c.Follows owns := by
    rw [Follows, unresolved]
    exact waiting
  cases e with
  | complete i result =>
      rw [step]
      split
      · exact follows_resolve waiting unresolved result
      · exact hstays
  | drop i =>
      cases i with
      | owned =>
          rw [step, if_neg (not_hasCompleter_owned (by simp [waiting]))]
          exact hstays
      | held i =>
          rw [step]
          split
          · rw [release, closeIfAbandoned]
            split
            · exact follows_resolve (c := { c with completers := c.completers.set i false })
                waiting unresolved _
            · exact hstays
          · exact hstays
  | clone i | query i => rw [step]; split <;> exact hstays
  | inspect | dropAck => rw [step, if_neg (by simp [waiting])]; exact hstays
  | poll | onComplete _ | call | finish => rw [step, waiting]; exact hstays

theorem consumer_resolve {c : Cell} (other : ∀ owns, c.consumer ≠ .callback owns)
    (result : Outcome) : (c.resolve result).1.consumer = c.consumer := by
  cases houtcome : c.outcome with
  | some o => rw [resolve_of_resolved houtcome]
  | none =>
      rw [resolve_of_unresolved houtcome]
      cases hconsumer : c.consumer with
      | callback owns => exact absurd hconsumer (other owns)
      | holder | due _ _ | running _ | gone | dropped => rfl

/-- The resolving side leaves the waiting side alone, a waiting callback apart. -/
theorem consumer_step {c : Cell} (other : ∀ owns, c.consumer ≠ .callback owns)
    (idle : c.consumer ≠ .running true) {e : Event} (resolving : e.ofCompleter = true) :
    (c.step e).1.consumer = c.consumer := by
  cases e with
  | complete i result =>
      rw [step]
      split
      · exact consumer_resolve other result
      · rfl
  | drop i =>
      cases i with
      | owned => rw [step, if_neg (not_hasCompleter_owned idle)]
      | held i =>
          rw [step]
          split
          · rw [release, closeIfAbandoned]
            split
            · exact consumer_resolve (c := { c with completers := c.completers.set i false })
                other _
            · rfl
          · rfl
  | clone i | query i => rw [step]; split <;> rfl
  | inspect | poll | onComplete _ | dropAck | call | finish =>
      exact absurd resolving Bool.false_ne_true

theorem step_call {c : Cell} {owns : Bool} {o : Outcome} (due : c.consumer = .due owns o) :
    c.step .call = ({ c with consumer := .running owns }, .ready o) := by
  rw [step, due]

/-- A callback that is due stays so until it is called. -/
theorem due_step {c : Cell} {owns : Bool} {o : Outcome} (due : c.consumer = .due owns o)
    {e : Event} (other : e ≠ .call) : (c.step e).1.consumer = .due owns o := by
  cases e with
  | clone _ | complete _ _ | query _ | drop _ =>
      exact (consumer_step (by simp [due]) (by simp [due]) rfl).trans due
  | inspect | dropAck => rw [step, if_neg (by simp [due])]; exact due
  | poll | onComplete _ | finish => rw [step, due]; exact due
  | call => exact absurd rfl other

/-- The acknowledgement is held until it answers a poll, is given a callback or is
dropped. -/
theorem holder_step {c : Cell} (holder : c.consumer = .holder) (e : Event) :
    (c.step e).1.consumer = .holder ∨ (e = .poll ∧ c.outcome.isSome = true) ∨
      (∃ owned, e = .onComplete owned) ∨ e = .dropAck := by
  cases e with
  | clone _ | complete _ _ | query _ | drop _ =>
      exact .inl ((consumer_step (by simp [holder]) (by simp [holder]) rfl).trans holder)
  | poll =>
      cases houtcome : c.outcome with
      | some o => exact .inr (.inl ⟨rfl, rfl⟩)
      | none =>
          left
          rw [step, holder, houtcome]
          exact holder
  | onComplete owned => exact .inr (.inr (.inl ⟨owned, rfl⟩))
  | dropAck => exact .inr (.inr (.inr rfl))
  | inspect => left; rw [step]; split <;> exact holder
  | call | finish => left; rw [step, holder]; exact holder

/-! ## One shot -/

structure ResolvesOnce (c : Cell) : Prop where
  /-- A resolved cell stays as it is. -/
  stays : ∀ o, c.outcome = some o → ∀ later, (c.after later).outcome = some o
  /-- An attempt is told to be the first exactly if the cell was not resolved, and
  then it is its result that counts. -/
  complete : ∀ i result, c.hasCompleter i = true →
    (c.step (.complete i result)).1.outcome = some (c.outcome.getD result) ∧
      (c.step (.complete i result)).2 = .completed c.outcome.isNone
  /-- Whatever is tried while the callback runs comes too late. -/
  reentrant : ∀ owns i result, c.consumer = .running owns → c.hasCompleter i = true →
    (c.step (.complete i result)).2 = .completed false
  /-- A clone is one more completer, and all that cloning makes. -/
  clone : ∀ i, c.hasCompleter i = true → ∃ n : Nat, (c.step (.clone i)).2 = .cloned n ∧
    c.hasCompleter n = false ∧ (c.step (.clone i)).1.outcome = c.outcome ∧
    (c.step (.clone i)).1.consumer = c.consumer ∧
    ∀ j, (c.step (.clone i)).1.hasCompleter j = (c.hasCompleter j || decide (j = n))
  /-- Dropping takes away the one that is dropped, and nothing else takes away any. -/
  dropped : ∀ i, c.hasCompleter i = true → (c.step (.drop i)).2 = .dropped ∧
    ∀ j, (c.step (.drop i)).1.hasCompleter j = (c.hasCompleter j && decide (j ≠ i))
  kept : ∀ e, (∀ i, e ≠ .clone i) → (∀ i, e ≠ .drop i) → ∀ j : Nat,
    (c.step e).1.hasCompleter j = c.hasCompleter j
  /-- Both sides can ask whether it is resolved. -/
  query : ∀ i, c.hasCompleter i = true → c.step (.query i) = (c, .resolved c.outcome.isSome)
  inspect : c.consumer = .holder → c.step .inspect = (c, .resolved c.outcome.isSome)
  /-- A dropped completer closes it exactly if nobody has another one. -/
  drop : ∀ i o, c.outcome = none → c.hasCompleter i = true →
    ((c.step (.drop i)).1.outcome = some o ↔ c.IsLast i ∧ o = .error .connectionClosed)
  /-- Nothing else resolves it. -/
  resolves : ∀ e o, c.outcome = none → (c.step e).1.outcome = some o →
    ∃ i, c.hasCompleter i = true ∧ (e = .complete i o ∨ e = .drop i)
  /-- Until then somebody can. -/
  inUse : c.outcome = none → (∃ i, c.hasCompleter i = true) ∨ c.consumer = .callback true

/-- How the waiting side learns the outcome; `told` is what it was told so far. -/
structure TellsOnce (c : Cell) (told : List Outcome) : Prop where
  /-- It is told the outcome once, and a callback never waits for one that is there. -/
  told : match c.consumer with
    | .running _ | .gone => ∃ o, c.outcome = some o ∧ told = [o]
    | .due _ o => c.outcome = some o ∧ told = []
    | .callback _ => c.outcome = none ∧ told = []
    | .holder | .dropped => told = []
  /-- The acknowledgement can be polled in vain any number of times. -/
  pending : c.consumer = .holder → c.outcome = none → c.step .poll = (c, .pending)
  ready : ∀ o, c.consumer = .holder → c.outcome = some o →
    c.step .poll = ({ c with consumer := .gone }, .ready o)
  /-- A callback waits, or is due at once. -/
  registered : ∀ owned, c.consumer = .holder →
    (c.step (.onComplete owned)).1.Follows (owned.any c.hasCompleter)
  /-- Nothing but the holder itself ends the holding. -/
  held : ∀ e, c.consumer = .holder → (c.step e).1.consumer = .holder ∨
    (e = .poll ∧ c.outcome.isSome = true) ∨ (∃ owned, e = .onComplete owned) ∨ e = .dropAck
  /-- A callback waits until the cell is resolved, by whatever it is. -/
  waits : ∀ owns, c.consumer = .callback owns → ∀ e, (c.step e).1.Follows owns
  /-- A callback that is due is not lost. -/
  due : ∀ owns o, c.consumer = .due owns o →
    c.step .call = ({ c with consumer := .running owns }, .ready o) ∧
      ∀ e, e ≠ .call → (c.step e).1.consumer = .due owns o

namespace Sound

variable {c : Cell} {told : List Outcome}

theorem resolvesOnce (sound : Sound c told) : ResolvesOnce c where
  stays _ hresolved later := outcome_after_of_resolved hresolved later
  complete _ result hlive := step_complete hlive result
  reentrant owns i result hrunning hlive := by
    obtain ⟨o, ho, -⟩ := sound.learned (by rw [hrunning]; rfl)
    rw [(step_complete hlive result).2, ho]
    rfl
  clone i hlive := by
    refine ⟨c.completers.length, ?_, ?_, ?_, ?_, hasCompleter_clone hlive⟩
    · rw [Cell.step, if_pos hlive]
    · simp [hasCompleter]
    · rw [Cell.step, if_pos hlive]
    · rw [Cell.step, if_pos hlive]
  dropped i hlive := ⟨by rw [Cell.step, if_pos hlive], hasCompleter_drop hlive⟩
  kept _ hnoClone hnoDrop j := c.hasCompleter_step hnoClone hnoDrop j
  query i hlive := by rw [Cell.step, if_pos hlive, isResolved]
  inspect hholder := by rw [Cell.step, if_pos hholder, isResolved]
  drop i o hnone hlive := sound.outcome_drop hnone hlive o
  resolves e o hnone hsome := by
    have hunchanged : c.outcome ≠ some o := by simp [hnone]
    cases e with
    | complete i result =>
        cases hlive : c.hasCompleter i with
        | false => exact absurd (by simpa [Cell.step, hlive] using hsome) hunchanged
        | true =>
            rw [(step_complete hlive result).1, hnone] at hsome
            exact ⟨i, hlive, .inl (congrArg _ (Option.some.inj hsome))⟩
    | drop i =>
        cases hlive : c.hasCompleter i with
        | false => exact absurd (by simpa [Cell.step, hlive] using hsome) hunchanged
        | true => exact ⟨i, hlive, .inr rfl⟩
    | finish =>
        cases hconsumer : c.consumer with
        | running owns =>
            have hlearned := sound.not_learned hnone
            exact absurd hlearned (by rw [hconsumer]; simp [Consumer.hasLearned])
        | holder | callback _ | due _ _ | gone | dropped =>
            rw [Cell.step, hconsumer] at hsome
            exact absurd hsome hunchanged
    | clone i | query i | inspect | poll | onComplete owned | dropAck | call =>
        rw [Cell.step] at hsome
        split at hsome <;> exact absurd hsome hunchanged
  inUse hnone := sound.exists_completer hnone

theorem tellsOnce (sound : Sound c told) : TellsOnce c told where
  told := by
    cases hconsumer : c.consumer with
    | running _ | gone => exact sound.learned (by rw [hconsumer]; rfl)
    | due owns o =>
        exact ⟨sound.due owns o hconsumer, sound.unlearned (by rw [hconsumer]; rfl)⟩
    | callback owns =>
        exact ⟨sound.waiting owns hconsumer, sound.unlearned (by rw [hconsumer]; rfl)⟩
    | holder | dropped => exact sound.unlearned (by rw [hconsumer]; rfl)
  pending hholder hnone := by rw [Cell.step, hholder, hnone]
  ready o hholder hsome := by rw [Cell.step, hholder, hsome]
  registered owned hholder := by
    cases houtcome : c.outcome with
    | some o => simp [Cell.step, Follows, hholder, houtcome]
    | none => simp [Cell.step, Follows, hholder, houtcome]
  held e hholder := holder_step hholder e
  waits owns hwaiting e := follows_step hwaiting (sound.waiting owns hwaiting) e
  due owns o hdue := ⟨step_call hdue, fun _ hother => due_step hdue hother⟩

end Sound

/-! ## Callbacks that run as soon as they are due -/

def toldBy (answers : List (Reply × List Invocation)) : List Outcome :=
  answers.flatMap fun answer => answer.1.outcome?.toList ++ answer.2.map (·.outcome)

@[simp] theorem outcome?_step_complete (c : Cell) (i : Completer) (result : Outcome) :
    (c.step (.complete i result)).2.outcome? = none := by
  rw [step]
  split <;> rfl

@[simp] theorem outcome?_step_finish (c : Cell) : (c.step .finish).2.outcome? = none := by
  rw [step]
  split <;> rfl

/-- A callback that runs to its end takes some events. -/
theorem attend_eq_after (c : Cell) :
    ∃ events, c.attend.1 = c.after events ∧ c.attend.2.map (·.outcome) = c.told events := by
  cases hconsumer : c.consumer with
  | due owns o =>
      cases howns : owns with
      | true =>
          refine ⟨[.call, .complete .owned (.ok ()), .finish], ?_, ?_⟩
          · rw [attend, hconsumer, howns]
            rfl
          · rw [attend, hconsumer, howns]
            simp [told, step_call hconsumer]
      | false =>
          refine ⟨[.call, .finish], ?_, ?_⟩
          · rw [attend, hconsumer, howns]
            rfl
          · rw [attend, hconsumer, howns]
            simp [told, step_call hconsumer]
  | holder | callback _ | running _ | gone | dropped =>
      exact ⟨[], by rw [attend, hconsumer]; rfl, by rw [attend, hconsumer]; rfl⟩

/-- A series whose callbacks run as soon as they are due is one of the
interleavings. -/
theorem run_interleaves (c : Cell) (events : List Event) :
    ∃ all, events.Sublist all ∧ toldBy (c.run events) = c.told all := by
  induction events generalizing c with
  | nil => exact ⟨[], .slnil, rfl⟩
  | cons e rest ih =>
      obtain ⟨calls, hafter, htold⟩ := (c.step e).1.attend_eq_after
      obtain ⟨all, hsub, hall⟩ := ih (c.step e).1.attend.1
      have hrest : rest.Sublist (calls ++ all) := hsub.trans (List.sublist_append_right ..)
      refine ⟨e :: (calls ++ all), hrest.cons_cons e, ?_⟩
      rw [told, told_append, ← hafter, ← htold, ← hall, ← List.append_assoc]
      rfl

/-- A callback that is due finds the cell resolved, so its own attempt fails. -/
theorem Sound.attempt_attend {c : Cell} {told : List Outcome} (sound : Sound c told) :
    ∀ call ∈ c.attend.2, call.attempt ≠ some true := by
  intro call hcall
  cases hconsumer : c.consumer with
  | due owns o =>
      have hcalled := step_call hconsumer
      have hrunning : Sound { c with consumer := .running owns } (told ++ [o]) := by
        simpa [hcalled] using sound.step .call
      cases owns with
      | true =>
          have hlate := hrunning.resolvesOnce.reentrant true .owned (.ok ()) rfl rfl
          have hattempt : call = ⟨o, some false⟩ := by
            simpa [attend, hconsumer, hcalled, hlate] using hcall
          simp [hattempt]
      | false =>
          have hattempt : call = ⟨o, none⟩ := by simpa [attend, hconsumer] using hcall
          simp [hattempt]
  | holder | callback _ | running _ | gone | dropped =>
      rw [attend, hconsumer] at hcall
      exact absurd hcall List.not_mem_nil

theorem Sound.attempt_run {c : Cell} {told : List Outcome} (sound : Sound c told)
    (events : List Event) : ∀ answer ∈ c.run events, ∀ call ∈ answer.2,
      call.attempt ≠ some true := by
  induction events generalizing c told with
  | nil => exact fun answer hanswer => absurd hanswer List.not_mem_nil
  | cons e rest ih =>
      obtain ⟨calls, hafter, -⟩ := (c.step e).1.attend_eq_after
      have hstep := sound.step e
      have hattend := sound_after hstep calls
      rw [← hafter] at hattend
      intro answer hanswer
      rcases List.mem_cons.mp hanswer with rfl | hanswer
      · exact hstep.attempt_attend
      · exact ih hattend answer hanswer

/-- In such a series the waiting side is told at most one outcome, and what a
callback tries with its own completer always fails. -/
theorem run_tells_once (events : List Event) :
    (toldBy (({} : Cell).run events) = [] ∨ ∃ o, toldBy (({} : Cell).run events) = [o]) ∧
      ∀ answer ∈ ({} : Cell).run events, ∀ call ∈ answer.2, call.attempt ≠ some true := by
  refine ⟨?_, Sound.initial.attempt_run events⟩
  obtain ⟨all, -, htold⟩ := run_interleaves {} events
  have hsound : Sound (({} : Cell).after all) (({} : Cell).told all) :=
    sound_after Sound.initial all
  rw [htold]
  cases hlearned : (({} : Cell).after all).consumer.hasLearned with
  | false => exact .inl (hsound.unlearned hlearned)
  | true =>
      obtain ⟨o, -, hone⟩ := hsound.learned hlearned
      exact .inr ⟨o, hone⟩

/-- However the two sides act, and in whatever order, an acknowledgement is
resolved once and its outcome told once. -/
theorem resolved_once_told_once (events : List Event) :
    ResolvesOnce (({} : Cell).after events) ∧
      TellsOnce (({} : Cell).after events) (({} : Cell).told events) ∧
      (({} : Cell).won events = [] ∨ ∃ o, ({} : Cell).won events = [o] ∧
        (({} : Cell).after events).outcome = some o) := by
  have hsound : Sound (({} : Cell).after events) (({} : Cell).told events) :=
    sound_after Sound.initial events
  exact ⟨hsound.resolvesOnce, hsound.tellsOnce, won_at_most_once {} events⟩

/-- Of two completers the first leaves the acknowledgement open when it is dropped. -/
example : ({} : Cell).run
      [.clone (.held 0), .drop (.held 0), .query (.held 1), .drop (.held 1), .poll] =
    [(.cloned 1, []), (.dropped, []), (.resolved false, []), (.dropped, []),
      (.ready (.error .connectionClosed), [])] := by decide

end Cell
end DeviceLink.Ack
