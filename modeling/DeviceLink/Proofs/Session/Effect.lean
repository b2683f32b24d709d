import DeviceLink.Proofs.Session.Table
import DeviceLink.Session.Step

/-!
# What commands and reports change

The manager performs commands, the worker reports outcomes.  These lemmas say
what becomes of every part of the state, so that nothing later needs to open
`perform`, `report` or `closeOrders`: a command changes the table, the inboxes
and the orders (`perform_eq`), a report changes one acknowledgement or one inbox
(`report_eq`), and closing orders is a series of reports (`closeOrders_eq`).
-/

namespace DeviceLink.Session

/-- An inbox with more items; one that is not open loses them. -/
def Inbox.put (b : Inbox) (items : List Item) : Inbox :=
  if b.live then { b with queue := b.queue ++ items } else b

@[simp] theorem Inbox.put_nil (b : Inbox) : b.put [] = b := by
  unfold Inbox.put
  split <;> simp

@[simp] theorem Inbox.put_put (b : Inbox) (first more : List Item) :
    (b.put first).put more = b.put (first ++ more) := by
  unfold Inbox.put
  cases hlive : b.live <;> simp [hlive]

@[simp] theorem Inbox.put_live (b : Inbox) (items : List Item) : (b.put items).live = b.live := by
  unfold Inbox.put
  split <;> rfl

@[simp] theorem Inbox.put_topic (b : Inbox) (items : List Item) :
    (b.put items).topic = b.topic := by
  unfold Inbox.put
  split <;> rfl

@[simp] theorem Inbox.put_delivered (b : Inbox) (items : List Item) :
    (b.put items).delivered = b.delivered := by
  unfold Inbox.put
  split <;> rfl

theorem Inbox.put_queue {b : Inbox} (live : b.live = true) (items : List Item) :
    (b.put items).queue = b.queue ++ items := by
  unfold Inbox.put
  rw [if_pos live]

def Command.isSubscribe : Command → Bool
  | subscribe .. => true
  | _ => false

abbrev Ending := Order × Outcome

namespace State

/-! ## Performing a command -/

def routesAfter (s : State) : Command → Routes
  | .subscribe topic qos _ => s.routes.insert topic ⟨s.nextId, qos, s.inboxes.length⟩
  | .unsubscribe topic _ => s.routes.erase topic
  | .dispatch topic _ =>
    if (s.routes.get? topic).any (fun route => !s.isInboxOpen route.inbox) then
      s.routes.erase topic
    else s.routes
  | .subscribeFailed topic id =>
    if (s.routes.get? topic).any (fun route => route.id = id) then s.routes.erase topic
    else s.routes
  | .publish .. => s.routes
  | .resubscribe => s.routes

def inboxesAfter (s : State) : Command → List Inbox
  | .subscribe topic _ _ => s.inboxes ++ [{ topic }]
  | .dispatch topic payload =>
    match s.routes.get? topic with
    | some route => s.inboxes.modify route.inbox (·.put [.message payload])
    | none => s.inboxes
  | _ => s.inboxes

def ordersFor (s : State) : Command → List Order
  | .subscribe topic qos ack => [⟨.subscribe topic qos, .caller ack, some s.nextId⟩]
  | .unsubscribe topic ack => [⟨.unsubscribe topic, .caller ack, none⟩]
  | .publish topic payload qos ack => [⟨.publish topic payload qos, .caller ack, none⟩]
  | .dispatch topic _ =>
    if (s.routes.get? topic).any (fun route => !s.isInboxOpen route.inbox) then
      [⟨.unsubscribe topic, .nobody, none⟩]
    else []
  | .resubscribe => resubscribeOrders s.routes
  | .subscribeFailed _ _ => []

inductive Makes (s : State) : Command → Order → Prop
  | subscribe {topic : String} {qos : QoS} {ack : Nat} :
      Makes s (.subscribe topic qos ack) ⟨.subscribe topic qos, .caller ack, some s.nextId⟩
  | unsubscribe {topic : String} {ack : Nat} :
      Makes s (.unsubscribe topic ack) ⟨.unsubscribe topic, .caller ack, none⟩
  | publish {topic : String} {payload : ByteArray} {qos : QoS} {ack : Nat} :
      Makes s (.publish topic payload qos ack) ⟨.publish topic payload qos, .caller ack, none⟩
  | dispatch {topic : String} {payload : ByteArray} {route : Route}
      (found : s.routes.get? topic = some route) (closed : s.isInboxOpen route.inbox = false) :
      Makes s (.dispatch topic payload) ⟨.unsubscribe topic, .nobody, none⟩
  | resubscribe {topic : String} {route : Route} (listed : (topic, route) ∈ s.routes) :
      Makes s .resubscribe ⟨.subscribe topic route.qos, .subscription route.inbox, none⟩

def nextIdAfter (s : State) : Command → UInt64
  | .subscribe .. => s.nextId + 1
  | _ => s.nextId

theorem modify_put_of_closed {s : State} {inbox : Nat} (items : List Item)
    (closed : s.isInboxOpen inbox = false) :
    s.inboxes.modify inbox (·.put items) = s.inboxes := by
  apply List.ext_getElem?
  intro k
  rw [List.getElem?_modify]
  by_cases hk : inbox = k
  · subst hk
    unfold isInboxOpen at closed
    cases hbox : s.inboxes[inbox]? with
    | none => rfl
    | some box =>
        have hlive : box.live = false := by simpa [hbox] using closed
        simp [Inbox.put, hlive]
  · simp [hk]

theorem perform_eq (s : State) (command : Command) : s.perform command = { s with
    routes := s.routesAfter command
    inboxes := s.inboxesAfter command
    orders := s.orders ++ s.ordersFor command
    nextId := s.nextIdAfter command } := by
  cases command with
  | subscribe topic qos ack => rfl
  | unsubscribe topic ack => rfl
  | publish topic payload qos ack => rfl
  | resubscribe => rfl
  | subscribeFailed topic id =>
      unfold perform dropRoute routesAfter inboxesAfter ordersFor nextIdAfter
      cases hroute : s.routes.get? topic with
      | none => simp [hroute]
      | some route => by_cases hid : route.id = id <;> simp [hroute, hid]
  | dispatch topic payload =>
      unfold perform dispatch routesAfter inboxesAfter ordersFor nextIdAfter
      cases hroute : s.routes.get? topic with
      | none => simp [hroute]
      | some route =>
          cases hopen : s.isInboxOpen route.inbox with
          | true => simp [hroute, hopen, putItem, Inbox.put]
          | false => simp [hroute, hopen, modify_put_of_closed]

theorem makes_of_mem {s : State} {command : Command} {order : Order}
    (made : order ∈ s.ordersFor command) : s.Makes command order := by
  cases command with
  | subscribe topic qos ack => exact List.mem_singleton.mp made ▸ .subscribe
  | unsubscribe topic ack => exact List.mem_singleton.mp made ▸ .unsubscribe
  | publish topic payload qos ack => exact List.mem_singleton.mp made ▸ .publish
  | subscribeFailed topic id => exact absurd made List.not_mem_nil
  | resubscribe =>
      obtain ⟨⟨topic, route⟩, hlisted, rfl⟩ := List.mem_map.mp made
      exact .resubscribe hlisted
  | dispatch topic payload =>
      rw [ordersFor] at made
      split at made
      · next hgone =>
          obtain ⟨route, hfound, hclosed⟩ := Option.any_eq_true _ _ |>.mp hgone
          exact List.mem_singleton.mp made ▸ .dispatch hfound (by simpa using hclosed)
      · exact absurd made List.not_mem_nil

def itemsFor (s : State) (inbox : Nat) : Command → List Item
  | .dispatch topic payload =>
    if (s.routes.get? topic).any (fun route => route.inbox = inbox) then [.message payload] else []
  | _ => []

theorem length_inboxesAfter (s : State) (command : Command) :
    (s.inboxesAfter command).length =
      s.inboxes.length + if command.isSubscribe then 1 else 0 := by
  cases command with
  | subscribe topic qos ack => simp [inboxesAfter, Command.isSubscribe]
  | dispatch topic payload =>
      cases hroute : s.routes.get? topic <;> simp [inboxesAfter, Command.isSubscribe, hroute]
  | _ => rfl

theorem getElem?_inboxesAfter {s : State} (command : Command) {inbox : Nat}
    (old : inbox < s.inboxes.length) :
    (s.inboxesAfter command)[inbox]? =
      s.inboxes[inbox]?.map (·.put (s.itemsFor inbox command)) := by
  cases command with
  | subscribe topic qos ack =>
      simp [inboxesAfter, itemsFor, List.getElem?_append_left old]
  | dispatch topic payload =>
      cases hroute : s.routes.get? topic with
      | none => simp [inboxesAfter, itemsFor, hroute]
      | some route =>
          by_cases h : route.inbox = inbox <;> simp [inboxesAfter, itemsFor, hroute, h]
  | _ => simp [inboxesAfter, itemsFor]

/-! ## Reporting outcomes -/

def toldAcks (acks : List (Option Outcome)) (endings : List Ending) : List (Option Outcome) :=
  endings.foldl (fun acks e =>
    match e.1.observer with
    | .caller ack => acks.modify ack fun a => a.or (some e.2)
    | _ => acks) acks

def toldInboxes (inboxes : List Inbox) (endings : List Ending) : List Inbox :=
  endings.foldl (fun inboxes e =>
    match e.1.observer, e.2 with
    | .subscription inbox, .error error => inboxes.modify inbox (·.put [.failure error])
    | _, _ => inboxes) inboxes

theorem report_eq (s : State) (order : Order) (outcome : Outcome) :
    s.report order.observer outcome = { s with
      acks := toldAcks s.acks [(order, outcome)]
      inboxes := toldInboxes s.inboxes [(order, outcome)] } := by
  obtain ⟨call, observer, route⟩ := order
  cases observer with
  | caller ack => rfl
  | nobody => cases outcome <;> rfl
  | subscription inbox => cases outcome <;> rfl

/-- Orders that never reach the transport. -/
def closings (orders : List Order) : List Ending :=
  orders.map fun order => (order, .error .connectionClosed)

@[simp] theorem map_fst_closings (orders : List Order) :
    (closings orders).map Prod.fst = orders := by
  simp [closings, Function.comp_def]

theorem closeOrders_eq (s : State) (orders : List Order) :
    s.closeOrders orders = { s with
      acks := toldAcks s.acks (closings orders)
      inboxes := toldInboxes s.inboxes (closings orders) } := by
  induction orders generalizing s with
  | nil => rfl
  | cons order rest ih =>
      rw [closeOrders, ih, report_eq]
      rfl

def outcomesFor (ack : Nat) (endings : List Ending) : List Outcome :=
  endings.filterMap fun e => if e.1.observer = .caller ack then some e.2 else none

def failuresFor (inbox : Nat) (endings : List Ending) : List Item :=
  endings.filterMap fun e =>
    match e.2 with
    | .error error => if e.1.observer = .subscription inbox then some (.failure error) else none
    | .ok () => none

/-- An acknowledgement keeps the first outcome that it learns. -/
theorem getElem?_toldAcks (acks : List (Option Outcome)) (endings : List Ending) (ack : Nat) :
    (toldAcks acks endings)[ack]? =
      acks[ack]?.map fun a => a.or (outcomesFor ack endings).head? := by
  induction endings generalizing acks with
  | nil => simp [toldAcks, outcomesFor]
  | cons e rest ih =>
      obtain ⟨⟨call, observer, route⟩, outcome⟩ := e
      have hrest := ih (toldAcks acks [(⟨call, observer, route⟩, outcome)])
      have hfirst : toldAcks acks ((⟨call, observer, route⟩, outcome) :: rest) =
          toldAcks (toldAcks acks [(⟨call, observer, route⟩, outcome)]) rest := rfl
      rw [hfirst, hrest]
      cases observer with
      | caller other =>
          by_cases h : other = ack
          · subst h
            simp [toldAcks, outcomesFor, Function.comp_def]
          · simp [toldAcks, outcomesFor, h]
      | subscription inbox => simp [toldAcks, outcomesFor]
      | nobody => simp [toldAcks, outcomesFor]

@[simp] theorem length_toldAcks (acks : List (Option Outcome)) (endings : List Ending) :
    (toldAcks acks endings).length = acks.length := by
  induction endings generalizing acks with
  | nil => rfl
  | cons e rest ih =>
      have hfirst : toldAcks acks (e :: rest) = toldAcks (toldAcks acks [e]) rest := rfl
      rw [hfirst, ih]
      unfold toldAcks
      simp only [List.foldl_cons, List.foldl_nil]
      split <;> simp

/-- A handler learns of every failure of an order that was made for it. -/
theorem getElem?_toldInboxes (inboxes : List Inbox) (endings : List Ending) (inbox : Nat) :
    (toldInboxes inboxes endings)[inbox]? =
      inboxes[inbox]?.map (·.put (failuresFor inbox endings)) := by
  induction endings generalizing inboxes with
  | nil => simp [toldInboxes, failuresFor]
  | cons e rest ih =>
      obtain ⟨⟨call, observer, route⟩, outcome⟩ := e
      have hfirst : toldInboxes inboxes ((⟨call, observer, route⟩, outcome) :: rest) =
          toldInboxes (toldInboxes inboxes [(⟨call, observer, route⟩, outcome)]) rest := rfl
      rw [hfirst, ih]
      cases observer with
      | caller ack => cases outcome <;> simp [toldInboxes, failuresFor]
      | nobody => cases outcome <;> simp [toldInboxes, failuresFor]
      | subscription other =>
          cases outcome with
          | ok u => simp [toldInboxes, failuresFor]
          | error error =>
              by_cases h : other = inbox
              · subst h
                simp [toldInboxes, failuresFor, Function.comp_def]
              · simp [toldInboxes, failuresFor, h]

@[simp] theorem length_toldInboxes (inboxes : List Inbox) (endings : List Ending) :
    (toldInboxes inboxes endings).length = inboxes.length := by
  induction endings generalizing inboxes with
  | nil => rfl
  | cons e rest ih =>
      have hfirst : toldInboxes inboxes (e :: rest) = toldInboxes (toldInboxes inboxes [e]) rest :=
        rfl
      rw [hfirst, ih]
      unfold toldInboxes
      simp only [List.foldl_cons, List.foldl_nil]
      split <;> simp

end State

end DeviceLink.Session
