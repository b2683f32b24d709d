import DeviceLink.Client.Call
import Mathlib.Data.List.DropRight

/-!
# The event loop as a function of its polls

The loop keeps a number of failures in 32 bits.  Here everything that it does is
said of the results alone: how many failures stand in a row at the end of those
polled so far (`failuresInRow`), whether the next one ends the loop (`Ends`), and
what it is answered with (`answer`).  One poll does what these say and keeps the
number equal to the row (`step?_of_goesOn`, `step?_of_ends`), so a run does, and
no number ever exceeds its bits.
-/

namespace DeviceLink

open Session (State Submission)

/-! ## Results -/

namespace PollResult

def isFailure : PollResult → Bool
  | failed _ => true
  | _ => false

/-- A disconnect in either direction. -/
def isDisconnect : PollResult → Bool
  | disconnectReceived => true
  | disconnectSent => true
  | _ => false

def submission? : PollResult → Option Submission
  | message topic payload => some (.dispatch topic payload)
  | connected false .success => some .resubscribe
  | _ => none

end PollResult

def Act.submission? : Act → Option Submission
  | tell (.dispatch topic payload) => some (.dispatch topic payload)
  | tell (.restored false) => some .resubscribe
  | tell (.restored true) => none
  | sleep _ => none

namespace EventLoop

/-- The number of failures in a row with which some results end. -/
def failuresInRow (polled : List PollResult) : Nat :=
  (polled.rtakeWhile PollResult.isFailure).length

/-- After some results, the next one ends the loop. -/
def Ends (maxFailures : UInt32) (earlier : List PollResult) (next : PollResult) : Prop :=
  next.isDisconnect = true ∨
    next.isFailure = true ∧ maxFailures.toNat ≤ failuresInRow (earlier ++ [next])

/-- After some results, none of the next ones ends the loop. -/
def GoesOn (maxFailures : UInt32) (earlier : List PollResult) : List PollResult → Prop
  | [] => True
  | next :: rest => ¬ Ends maxFailures earlier next ∧ GoesOn maxFailures (earlier ++ [next]) rest

def answer (earlier : List PollResult) : PollResult → List Act
  | .message topic payload => [.tell (.dispatch topic payload)]
  | .connected sessionPresent .success => [.tell (.restored sessionPresent)]
  | .failed reason =>
    let inRow := failuresInRow (earlier ++ [.failed reason])
    [.sleep (min (100 * Nat.pow 2 (inRow - 1)) 30000)]
  | _ => []

def answers (earlier : List PollResult) : List PollResult → List Act
  | [] => []
  | next :: rest => answer earlier next ++ answers (earlier ++ [next]) rest

variable {maxFailures failures : UInt32} {earlier rest : List PollResult} {next : PollResult}

theorem failuresInRow_failed (earlier : List PollResult) (reason : String) :
    failuresInRow (earlier ++ [.failed reason]) = failuresInRow earlier + 1 := by
  rw [failuresInRow, List.rtakeWhile_concat_pos _ _ _ rfl, List.length_append]
  rfl

theorem failuresInRow_of_not_isFailure (success : next.isFailure = false) :
    failuresInRow (earlier ++ [next]) = 0 := by
  rw [failuresInRow, List.rtakeWhile_concat_neg _ _ _ (by simp [success])]
  rfl

/-! ## One poll -/

/-- Beyond ten doublings the delay has reached its bound. -/
theorem bounded_delay (n : Nat) :
    min (100 * Nat.pow 2 (min n 10)) 30000 = min (100 * Nat.pow 2 n) 30000 := by
  by_cases hfew : n ≤ 10
  · rw [Nat.min_eq_left hfew]
  · have hmany : Nat.pow 2 10 ≤ Nat.pow 2 n :=
      Nat.pow_le_pow_right Nat.two_pos (by omega)
    have hcap : min n 10 = 10 := Nat.min_eq_right (by omega)
    rw [hcap]
    simp only [Nat.pow_eq] at hmany ⊢
    omega

theorem retryDelayMillis?_eq (failures : UInt32) :
    retryDelayMillis? failures = some (min (100 * Nat.pow 2 (failures.toNat - 1)) 30000) := by
  have hfactor : Nat.pow 2 (min (failures.toNat - 1) 10) ≤ 1024 :=
    Nat.pow_le_pow_right Nat.two_pos (Nat.min_le_right _ 10)
  have hfits : Nat.pow 2 (min (failures.toNat - 1) 10) < UInt32.size ∧
      100 * Nat.pow 2 (min (failures.toNat - 1) 10) / 1000 < UInt64.size := by
    simp only [UInt32.size, UInt64.size]
    omega
  simp only [retryDelayMillis?]
  rw [if_pos hfits, bounded_delay]

theorem countFailure?_eq_some (fits : failures.toNat + 1 < UInt32.size) :
    countFailure? failures = some (failures + 1) ∧ (failures + 1).toNat = failures.toNat + 1 := by
  refine ⟨if_pos fits, ?_⟩
  rw [UInt32.toNat_add]
  exact Nat.mod_eq_of_lt fits

/-- The loop knows how many failures stand in a row, and they are not too many. -/
structure Counts (maxFailures failures : UInt32) (earlier : List PollResult) : Prop where
  inRow : failures.toNat = failuresInRow earlier
  few : failures.toNat = 0 ∨ failures.toNat < maxFailures.toNat

theorem Counts.fits (counts : Counts maxFailures failures earlier) :
    failures.toNat + 1 < UInt32.size := by
  have hmax : maxFailures.toNat < UInt32.size := maxFailures.toNat_lt
  rcases counts.few with hzero | hfew
  · rw [hzero]
    decide
  · omega

/-- A failure is counted without overflow. -/
theorem Counts.countFailure? (counts : Counts maxFailures failures earlier) (reason : String) :
    EventLoop.countFailure? failures = some (failures + 1) ∧
      (failures + 1).toNat = failuresInRow (earlier ++ [.failed reason]) := by
  obtain ⟨hcount, hnext⟩ := countFailure?_eq_some counts.fits
  refine ⟨hcount, ?_⟩
  rw [hnext, failuresInRow_failed, counts.inRow]

theorem step?_of_ends (counts : Counts maxFailures failures earlier)
    (ends : Ends maxFailures earlier next) :
    step? maxFailures failures next = some ([], none) := by
  rcases ends with hdisconnect | ⟨hfailure, hmany⟩
  · cases next with
    | disconnectReceived => rfl
    | disconnectSent => rfl
    | _ => exact absurd hdisconnect (by simp [PollResult.isDisconnect])
  · cases next with
    | failed reason =>
        obtain ⟨hcount, hnext⟩ := counts.countFailure? reason
        have hstops : maxFailures ≤ failures + 1 := by
          rw [UInt32.le_iff_toNat_le, hnext]
          exact hmany
        simp [step?, hcount, hstops]
    | _ => exact absurd hfailure (by simp [PollResult.isFailure])

theorem step?_of_goesOn (counts : Counts maxFailures failures earlier)
    (goesOn : ¬ Ends maxFailures earlier next) :
    ∃ failures', step? maxFailures failures next = some (answer earlier next, some failures') ∧
      Counts maxFailures failures' (earlier ++ [next]) := by
  obtain ⟨hconnected, hfew⟩ := not_or.mp goesOn
  by_cases hfailure : next.isFailure = true
  · cases next with
    | failed reason =>
        obtain ⟨hcount, hnext⟩ := counts.countFailure? reason
        have hbelow : (failures + 1).toNat < maxFailures.toNat := by
          rw [hnext]
          exact Nat.not_le.mp fun hmany => hfew ⟨rfl, hmany⟩
        have hwaits : ¬ maxFailures ≤ failures + 1 := by
          rw [UInt32.le_iff_toNat_le]
          omega
        refine ⟨failures + 1, ?_, hnext, Or.inr hbelow⟩
        simp [step?, hcount, hwaits, retryDelayMillis?_eq, answer, hnext]
    | _ => exact absurd hfailure (by simp [PollResult.isFailure])
  · -- Whatever is no failure begins a new row.
    have hnone : Counts maxFailures 0 (earlier ++ [next]) :=
      ⟨(failuresInRow_of_not_isFailure (Bool.not_eq_true _ ▸ hfailure)).symm, Or.inl rfl⟩
    refine ⟨0, ?_, hnone⟩
    cases next with
    | connected sessionPresent code => cases code <;> rfl
    | message topic payload => rfl
    | subscriptionNoted => rfl
    | other => rfl
    | failed reason => exact absurd rfl hfailure
    | disconnectReceived => exact absurd rfl hconnected
    | disconnectSent => exact absurd rfl hconnected

/-! ## All polls -/

/-- What a run of the loop does from some point on, and where it ends. -/
theorem run?_of_counts (counts : Counts maxFailures failures earlier) (polls : List PollResult) :
    (GoesOn maxFailures earlier polls ∧
      run? maxFailures failures polls = some ⟨answers earlier polls, none⟩) ∨
    ∃ polled last unread, polls = polled ++ last :: unread ∧ GoesOn maxFailures earlier polled ∧
      Ends maxFailures (earlier ++ polled) last ∧
      run? maxFailures failures polls = some ⟨answers earlier polled, some unread⟩ := by
  induction polls generalizing failures earlier with
  | nil => exact Or.inl ⟨trivial, rfl⟩
  | cons next rest ih =>
      by_cases hends : Ends maxFailures earlier next
      · refine Or.inr ⟨[], next, rest, rfl, trivial, by simpa using hends, ?_⟩
        rw [run?, step?_of_ends counts hends]
        rfl
      · obtain ⟨failures', hstep, hcounts⟩ := step?_of_goesOn counts hends
        rcases ih hcounts with ⟨hgoes, hrun⟩ | ⟨polled, last, unread, rfl, hgoes, hlast, hrun⟩
        · refine Or.inl ⟨⟨hends, hgoes⟩, ?_⟩
          rw [run?, hstep]
          simp [hrun, answers]
        · refine Or.inr ⟨next :: polled, last, unread, rfl, ⟨hends, hgoes⟩, ?_, ?_⟩
          · simpa using hlast
          · rw [run?, hstep]
            simp [hrun, answers]

/-- What the loop does asks the session for what the results ask for. -/
theorem submissions_answers (earlier polled : List PollResult) :
    (answers earlier polled).filterMap Act.submission? =
      polled.filterMap PollResult.submission? := by
  induction polled generalizing earlier with
  | nil => rfl
  | cons next rest ih =>
      rw [answers, List.filterMap_append, ih, List.filterMap_cons]
      cases next with
      | connected sessionPresent code => cases sessionPresent <;> cases code <;> rfl
      | _ => rfl

theorem tell_eq_ok_iff (s t : State) (signal : Signal) :
    Client.tell s signal = .ok t ↔
      match (Act.tell signal).submission? with
      | some what => Client.submit s what = .ok t
      | none => t = s := by
  cases signal with
  | dispatch topic payload => rfl
  | restored sessionPresent =>
      cases sessionPresent with
      | true => simp [Client.tell, Client.sessionRestored, Act.submission?, eq_comm]
      | false => rfl

/-- The loop ends with the first result that is a disconnect or completes a row of
failures, and polls on as long as there is none.  Until then it passes on every
message and every new connection and sleeps after every failure, in the order of
the results; so the session is asked for the messages and, where a connection has
lost its session, for a resubscription, and for nothing else.  No limit makes a
number overflow. -/
theorem loop_follows_polls (maxFailures : UInt32) (polls : List PollResult) :
    ∃ polled acts unread, run? maxFailures 0 polls = some ⟨acts, unread⟩ ∧
      ((unread = none ∧ polls = polled) ∨
        ∃ last rest, unread = some rest ∧ polls = polled ++ last :: rest ∧
          Ends maxFailures polled last) ∧
      GoesOn maxFailures [] polled ∧
      acts = answers [] polled ∧
      acts.filterMap Act.submission? = polled.filterMap PollResult.submission? ∧
      (∀ s t signal, Client.tell s signal = .ok t ↔
        match (Act.tell signal).submission? with
        | some what => Client.submit s what = .ok t
        | none => t = s) := by
  have hcounts : Counts maxFailures 0 [] := ⟨rfl, Or.inl rfl⟩
  rcases run?_of_counts hcounts polls with
    ⟨hgoes, hrun⟩ | ⟨polled, last, rest, hpolls, hgoes, hends, hrun⟩
  · exact ⟨polls, _, none, hrun, Or.inl ⟨rfl, rfl⟩, hgoes, rfl, submissions_answers [] polls,
      tell_eq_ok_iff⟩
  · exact ⟨polled, _, some rest, hrun, Or.inr ⟨last, rest, rfl, hpolls, hends⟩, hgoes, rfl,
      submissions_answers [] polled, tell_eq_ok_iff⟩

/-- A message between failures begins a new row. -/
example :
    run? 2 0 [.failed "", .message "a" ⟨#[1]⟩, .connected false .success, .failed "", .failed "",
        .other] =
      some ⟨[.sleep 100, .tell (.dispatch "a" ⟨#[1]⟩), .tell (.restored false), .sleep 100],
        some [.other]⟩ := by
  rfl

end EventLoop

end DeviceLink
