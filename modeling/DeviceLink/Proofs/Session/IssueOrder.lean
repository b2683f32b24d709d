import DeviceLink.Proofs.Session.Shutdown

/-!
# Acknowledgements are resolved in the order of their requests

An outcome may come from the worker or from its being cut off, and the orders of
callers are mixed with those that bring routes back or release them.  Still the
requests that have learned an outcome are always the first ones that were issued:
the worker finishes orders in the order in which they were made, being cut off
closes the rest in the same order, and the manager passes requests on in the order
in which they came.
-/

namespace DeviceLink.Session

def State.isResolved (s : State) (ack : Nat) : Bool := s.acks[ack]?.join.isSome

/-- The requests that callers have issued in a run, in the order in which their
commands came into the queue. -/
def issued (actions : List Action) : List Request :=
  requests (commandsFrom 0 (submissions actions))

/-! ## What has been issued -/

/-- Only callers' commands carry requests. -/
theorem requests_callers (commands : List Command) :
    requests (callers commands) = requests commands := by
  rw [requests, callers, List.filterMap_filter, requests]
  refine List.filterMap_congr fun command _ => ?_
  cases command <;> rfl

theorem requests_entered {actions : List Action} {s : State}
    (run : State.initial.run? actions = some s) :
    requests (history actions).entered = issued actions := by
  rw [← requests_callers, (callers_entered run).1, issued]

/-! ## What has been resolved -/

namespace Tracked

variable {h : History} {s : State}

/-- The requests whose orders have ended are the first that came into the queue. -/
theorem ended_prefix (tracked : Tracked h s) (flows : Flows h s) :
    orderedRequests (h.settled.map Prod.fst) <+: requests h.entered :=
  (flows.settled_prefix.filterMap Order.request?).trans (tracked.orderedRequests_prefix flows)

/-- An acknowledgement has learned an outcome exactly if the order of its request
has ended. -/
theorem isResolved_iff (tracked : Tracked h s) (flows : Flows h s) (ack : Nat) :
    s.isResolved ack = true ↔ ack ∈ (orderedRequests (h.settled.map Prod.fst)).map Prod.fst := by
  have hended : ack ∈ (orderedRequests (h.settled.map Prod.fst)).map Prod.fst ↔
      State.outcomesFor ack h.settled ≠ [] := by
    rw [← List.length_pos_iff, length_outcomesFor, List.count_pos_iff]
  rw [State.isResolved]
  rcases Nat.lt_or_ge ack s.acks.length with hgiven | hnone
  · rw [hended, tracked.shown ack hgiven, Option.join_some, List.isSome_head?]
  · -- No order names an acknowledgement that was never given out.
    rw [List.getElem?_eq_none hnone]
    refine iff_of_false (by simp) fun hmem => ?_
    obtain ⟨request, hrequest, rfl⟩ := List.mem_map.mp hmem
    have hmade := (tracked.ended_prefix flows).subset hrequest
    exact absurd (tracked.lt_of_mem hmade) (Nat.not_lt_of_le hnone)

end Tracked

/-- If the keys of a list are distinct, a prefix holds exactly the members that
have one of its keys. -/
theorem filter_key_mem_prefix {α β : Type} [DecidableEq α] {first all : List (α × β)}
    (initial : first <+: all) (distinct : (all.map Prod.fst).Nodup) :
    (all.filter fun x => x.1 ∈ first.map Prod.fst) = first := by
  obtain ⟨rest, rfl⟩ := initial
  rw [List.map_append, List.nodup_append] at distinct
  obtain ⟨-, -, hapart⟩ := distinct
  have hfirst : (first.filter fun x => x.1 ∈ first.map Prod.fst) = first := by
    rw [List.filter_eq_self]
    intro x hx
    exact decide_eq_true (List.mem_map_of_mem hx)
  have hrest : (rest.filter fun x => x.1 ∈ first.map Prod.fst) = [] := by
    rw [List.filter_eq_nil_iff]
    intro x hx hkey
    exact hapart x.1 (of_decide_eq_true hkey) x.1 (List.mem_map_of_mem hx) rfl
  rw [List.filter_append, hfirst, hrest, List.append_nil]

/-- A prefix of the numbers below a bound has with each number all smaller ones. -/
theorem mem_prefix_range {numbers : List Nat} {bound earlier later : Nat}
    (initial : numbers <+: List.range bound) (before : earlier ≤ later)
    (member : later ∈ numbers) : earlier ∈ numbers := by
  rw [List.prefix_iff_eq_take.mp initial, List.take_range, List.mem_range] at member ⊢
  exact Nat.lt_of_le_of_lt before member

/-- At every moment of every run the requests whose acknowledgements have learned an
outcome are the first ones that were issued.  They are the requests of the orders
that have ended, and whoever sees one acknowledgement resolved will find all earlier
ones resolved. -/
theorem acknowledged_in_issue_order {actions : List Action} {s : State}
    (run : State.initial.run? actions = some s) :
    (issued actions).map Prod.fst = List.range s.acks.length ∧
      ((issued actions).filter fun request => s.isResolved request.1) <+: issued actions ∧
      ((issued actions).filter fun request => s.isResolved request.1) =
        orderedRequests ((history actions).settled.map Prod.fst) ∧
      ∀ earlier later, earlier ≤ later → s.isResolved later = true →
        s.isResolved earlier = true := by
  have flows := flows_of_run run
  have tracked := tracked_of_run run
  have hnumbered := tracked.numbered
  have hended := tracked.ended_prefix flows
  have hdistinct := tracked.nodup
  rw [requests_entered run] at hnumbered hended hdistinct
  have hresolved : ((issued actions).filter fun request => s.isResolved request.1) =
      orderedRequests ((history actions).settled.map Prod.fst) := by
    rw [← filter_key_mem_prefix hended hdistinct]
    refine List.filter_congr fun request _ => ?_
    rw [Bool.eq_iff_iff, tracked.isResolved_iff flows, decide_eq_true_iff]
  refine ⟨hnumbered, hresolved ▸ hended, hresolved, fun earlier later hbefore hlater => ?_⟩
  rw [tracked.isResolved_iff flows] at hlater ⊢
  exact mem_prefix_range (hnumbered ▸ hended.map Prod.fst) hbefore hlater

/-- A topic is subscribed and brought back, and two more requests are made. -/
def mixedOrders : List Action :=
  [.submit (.subscribe "a" .atLeastOnce), .handle, .submit .resubscribe, .handle,
    .submit (.publish "b" ⟨#[1]⟩ .atMostOnce), .submit (.unsubscribe "a"), .start,
    .answer (.ok ()), .settle, .start, .requestStop, .handle, .close, .handle, .finish]

def whileBroughtBack : State := (State.initial.run? mixedOrders).getD .initial

theorem first_request_resolved_first : State.initial.run? mixedOrders = some whileBroughtBack ∧
    whileBroughtBack.worker = .calling ⟨.subscribe "a" .atLeastOnce, .subscription 0, none⟩ ∧
    ((issued mixedOrders).filter fun request => whileBroughtBack.isResolved request.1) =
      [(0, .subscribe "a" .atLeastOnce)] ∧
    whileBroughtBack.isResolved 2 = false := by
  have hrun : State.initial.run? mixedOrders = some whileBroughtBack := by decide
  obtain ⟨-, -, hended, hearlier⟩ := acknowledged_in_issue_order hrun
  refine ⟨hrun, by decide, hended.trans (by decide), ?_⟩
  rw [← Bool.not_eq_true]
  intro hlast
  exact absurd (hearlier 1 2 (by decide) hlast) (by decide)

end DeviceLink.Session
