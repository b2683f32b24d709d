import DeviceLink.Client.Attempt
import DeviceLink.Client.Rehearsal
import DeviceLink.Proofs.Session.Acknowledgement

/-!
# Calls that fail leave nothing behind

Whether a call gets as far as the queue depends on what the caller gives alone
(`Call.prepared`), and only the queue changes the session.  So a call that fails has
changed nothing, and whatever can happen after it can happen without it
(`failed_call_leaves_no_trace`).  A call that succeeds is one step of the session
(`run_of_play`).
-/

namespace DeviceLink

def Session.Submission.of : TransportCall → Submission
  | .subscribe topic qos => .subscribe topic qos
  | .unsubscribe topic => .unsubscribe topic
  | .publish topic payload qos => .publish topic payload qos

theorem Session.request?_command_of (call : TransportCall) (ack : Nat) :
    ((Submission.of call).command ack).request? = some (ack, call) := by
  cases call <;> rfl

theorem Session.isRequest_of (call : TransportCall) : (Submission.of call).isRequest = true := by
  cases call <;> rfl

namespace Client

open Session (State Submission Action)

variable {s t : State}

/-! ## What a call comes to -/

def subscription (topic : String) (qos : QoS) : Except ClientError TransportCall :=
  (checkTopic topic).bind fun _ => .ok (.subscribe topic qos)

def publication {α : Type} (format : Format α) (topic : String) (data : α) (qos : QoS) :
    Except ClientError TransportCall :=
  (checkTopic topic).bind fun _ =>
    ((format.write data).mapError .serialization).bind fun payload =>
      .ok (.publish topic payload qos)

/-- What a call asks the transport for, or why it does not get that far. -/
def Call.prepared : Call → Except ClientError TransportCall
  | subscribe topic qos => subscription topic qos
  | unsubscribe topic => .ok (.unsubscribe topic)
  | publish format topic data qos => publication format topic data qos
  | subscribeAnswer exchange role address qos =>
    ((exchange.topic role address).mapError .topic).bind fun topic => subscription topic qos
  | subscribeEvents stream address qos =>
    ((stream.topic address).mapError .topic).bind fun topic => subscription topic qos
  | publishRequest exchange format request qos =>
    ((exchange.topic .request request.address).mapError .topic).bind fun topic =>
      publication format topic request qos

def taken (s : State) (call : TransportCall) : State :=
  { s with
    commands := s.commands ++ [(Submission.of call).command s.acks.length]
    acks := s.acks ++ [none] }

theorem submit?_of (s : State) (call : TransportCall) :
    s.submit? (.of call) = if s.isOpen then some (taken s call) else none := by
  rw [State.submit?, Session.isRequest_of]
  rfl

/-! ## Stages -/

/-- The attempt fails as its preparation does, and otherwise is the queue's to
decide. -/
def Attempt.Prepares (x : Attempt Receipt) (prepared : Except ClientError TransportCall) : Prop :=
  ∀ s, x.on s = match prepared with
    | .error e => (.error e, s)
    | .ok call =>
      if s.isOpen then (.ok ⟨s.acks.length, call.topic⟩, taken s call)
      else (.error .channelClosed, s)

namespace Attempt

theorem on_enqueue (topic : String) (what : Submission) (s : State) :
    (enqueue topic what).on s = match s.submit? what with
      | some after => (.ok ⟨s.acks.length, topic⟩, after)
      | none => (.error .channelClosed, s) := by
  show on (match s.submit? what with
    | some after => (do
        set after
        return ⟨s.acks.length, topic⟩ : Attempt Receipt)
    | none => throw .channelClosed) s = _
  cases s.submit? what <;> rfl

theorem prepares_enqueue (call : TransportCall) :
    (enqueue call.topic (.of call)).Prepares (.ok call) := by
  intro s
  rw [on_enqueue, submit?_of]
  cases s.isOpen <;> rfl

/-- A stage that does not look at the session changes nothing if it fails. -/
theorem Prepares.check {α : Type} {result : Except ClientError α} {x : α → Attempt Receipt}
    {prepared : α → Except ClientError TransportCall} (next : ∀ a, (x a).Prepares (prepared a)) :
    (Attempt.check result >>= x).Prepares (result.bind prepared) := by
  intro s
  cases result with
  | error e => rfl
  | ok a => exact next a s

theorem prepares_subscribe (topic : String) (qos : QoS) :
    (subscribe topic qos).Prepares (subscription topic qos) :=
  .check fun _ => prepares_enqueue (.subscribe topic qos)

theorem prepares_publish {α : Type} (format : Format α) (topic : String) (data : α) (qos : QoS) :
    (publish format topic data qos).Prepares (publication format topic data qos) :=
  .check fun _ => .check fun payload => prepares_enqueue (.publish topic payload qos)

end Attempt

/-- What becomes of a call is settled by what it asks for and by whether the queue is
open. -/
theorem Call.prepares (c : Call) : c.attempt.Prepares c.prepared := by
  cases c with
  | subscribe topic qos => exact Attempt.prepares_subscribe topic qos
  | unsubscribe topic => exact Attempt.prepares_enqueue (.unsubscribe topic)
  | publish format topic data qos => exact Attempt.prepares_publish format topic data qos
  | subscribeAnswer exchange role address qos =>
      exact .check fun topic => Attempt.prepares_subscribe topic qos
  | subscribeEvents stream address qos =>
      exact .check fun topic => Attempt.prepares_subscribe topic qos
  | publishRequest exchange format request qos =>
      exact .check fun topic => Attempt.prepares_publish format topic request qos

/-! ## The client's own calls -/

def issuedBy : Except ClientError Receipt × State → Except ClientError Issued
  | (.error e, _) => .error e
  | (.ok receipt, after) => .ok ⟨after, receipt.ack, receipt.topic⟩

theorem issuedBy_enqueue (topic : String) (what : Submission) (s : State) :
    issuedBy ((Attempt.enqueue topic what).on s) = issue s topic what := by
  rw [Attempt.on_enqueue, issue, submit]
  cases s.submit? what <;> rfl

theorem issuedBy_subscribe (topic : String) (qos : QoS) (s : State) :
    issuedBy ((Attempt.subscribe topic qos).on s) = subscribe s topic qos := by
  rw [Attempt.subscribe, subscribe]
  cases checkTopic topic with
  | error e => rfl
  | ok u => exact issuedBy_enqueue topic _ s

theorem issuedBy_publish {α : Type} (format : Format α) (topic : String) (data : α) (qos : QoS)
    (s : State) :
    issuedBy ((Attempt.publish format topic data qos).on s) = publish format s topic data qos := by
  rw [Attempt.publish, publish]
  cases checkTopic topic with
  | error e => rfl
  | ok u =>
      cases format.write data with
      | error reason => rfl
      | ok payload => exact issuedBy_enqueue topic _ s

/-- A call that builds its topic first. -/
theorem issuedBy_built {build : Except TopicError String} {x : String → Attempt Receipt}
    {call : String → Except ClientError Issued}
    (next : ∀ topic, issuedBy ((x topic).on s) = call topic) :
    issuedBy ((Attempt.check (build.mapError .topic) >>= x).on s) = match build with
      | .error e => .error (.topic e)
      | .ok topic => call topic := by
  cases build with
  | error e => rfl
  | ok topic => exact next topic

/-- The client's calls are these attempts. -/
theorem Call.make_eq (c : Call) (s : State) : c.make s = issuedBy (c.attempt.on s) := by
  symm
  cases c with
  | subscribe topic qos => exact issuedBy_subscribe topic qos s
  | unsubscribe topic => exact issuedBy_enqueue topic _ s
  | publish format topic data qos => exact issuedBy_publish format topic data qos s
  | subscribeAnswer exchange role address qos =>
      exact issuedBy_built fun topic => issuedBy_subscribe topic qos s
  | subscribeEvents stream address qos =>
      exact issuedBy_built fun topic => issuedBy_subscribe topic qos s
  | publishRequest exchange format request qos =>
      exact issuedBy_built fun topic => issuedBy_publish format topic request qos s

/-- Requests of the two services are written by the format of their bodies. -/
theorem Call.make_publishRequest {Address Body Accepted Rejected : Type} [TopicBinding Address]
    [Inhabited Address] [Payload Body] (exchange : Exchange Address Body Accepted Rejected)
    (request : Request Address Body) (qos : QoS) (s : State) :
    (publishRequest exchange (Format.request Address Body) request qos).make s =
      Client.publishRequest exchange s request qos := by
  rw [make, Client.publishRequest]
  cases exchange.topic .request request.address with
  | error e => rfl
  | ok topic => rfl

/-! ## Why a call fails -/

def IsEarly (e : ClientError) : Prop :=
  (∃ fault, e = .topic fault) ∨ ∃ reason, e = .serialization reason

section Early

variable {α β : Type} {e : ClientError}

theorem bind_eq_error {result : Except ClientError α} {f : α → Except ClientError β}
    (fails : result.bind f = .error e) : result = .error e ∨ ∃ a, f a = .error e := by
  cases result with
  | error e' => exact .inl (congrArg Except.error (Except.error.inj fails))
  | ok a => exact .inr ⟨a, fails⟩

theorem isEarly_of_topic {result : Except TopicError α}
    (fails : result.mapError ClientError.topic = .error e) : IsEarly e := by
  cases result with
  | error fault => exact .inl ⟨fault, (Except.error.inj fails).symm⟩
  | ok a => exact nomatch fails

theorem isEarly_subscription {topic : String} {qos : QoS}
    (fails : subscription topic qos = .error e) : IsEarly e := by
  rcases bind_eq_error fails with hcheck | ⟨u, hcall⟩
  · exact isEarly_of_topic hcheck
  · exact nomatch hcall

theorem isEarly_publication {format : Format α} {topic : String} {data : α} {qos : QoS}
    (fails : publication format topic data qos = .error e) : IsEarly e := by
  rcases bind_eq_error fails with hcheck | ⟨u, hwrite⟩
  · exact isEarly_of_topic hcheck
  · cases hwritten : format.write data with
    | error reason =>
        rw [hwritten] at hwrite
        exact .inr ⟨reason, (Except.error.inj hwrite).symm⟩
    | ok payload =>
        rw [hwritten] at hwrite
        exact nomatch hwrite

theorem isEarly_built {build : Except TopicError String}
    {f : String → Except ClientError TransportCall}
    (next : ∀ topic, f topic = .error e → IsEarly e)
    (fails : (build.mapError ClientError.topic).bind f = .error e) : IsEarly e := by
  rcases bind_eq_error fails with hbuild | ⟨topic, hcall⟩
  · exact isEarly_of_topic hbuild
  · exact next topic hcall

theorem Call.isEarly_prepared {c : Call} (fails : c.prepared = .error e) : IsEarly e := by
  cases c with
  | subscribe topic qos => exact isEarly_subscription fails
  | unsubscribe topic => exact nomatch fails
  | publish format topic data qos => exact isEarly_publication fails
  | subscribeAnswer exchange role address qos =>
      exact isEarly_built (fun topic => isEarly_subscription) fails
  | subscribeEvents stream address qos =>
      exact isEarly_built (fun topic => isEarly_subscription) fails
  | publishRequest exchange format request qos =>
      exact isEarly_built (fun topic => isEarly_publication) fails

end Early

/-! ## What a call leaves behind -/

namespace Call

variable {c : Call}

theorem on_attempt_of_error {e : ClientError} (fails : c.prepared = .error e) (s : State) :
    c.attempt.on s = (.error e, s) := by
  rw [c.prepares s, fails]

theorem on_attempt_of_open {call : TransportCall} (prepared : c.prepared = .ok call)
    (isOpen : s.isOpen = true) :
    c.attempt.on s = (.ok ⟨s.acks.length, call.topic⟩, taken s call) := by
  rw [c.prepares s, prepared]
  exact if_pos isOpen

theorem on_attempt_of_closed {call : TransportCall} (prepared : c.prepared = .ok call)
    (closed : s.isOpen = false) : c.attempt.on s = (.error .channelClosed, s) := by
  rw [c.prepares s, prepared]
  exact if_neg (by simp [closed])

/-- A call that fails leaves the session as it was. -/
theorem on_attempt_eq_error {e : ClientError} {after : State}
    (fails : c.attempt.on s = (.error e, after)) :
    after = s ∧ (c.prepared = .error e ∨
      (∃ call, c.prepared = .ok call) ∧ e = .channelClosed ∧ s.isOpen = false) := by
  cases hprepared : c.prepared with
  | error e' =>
      obtain ⟨herror, hafter⟩ := Prod.mk.inj ((on_attempt_of_error hprepared s).symm.trans fails)
      exact ⟨hafter.symm, .inl (congrArg Except.error (Except.error.inj herror))⟩
  | ok call =>
      cases hopen : s.isOpen with
      | true => exact nomatch (on_attempt_of_open hprepared hopen).symm.trans fails
      | false =>
          obtain ⟨herror, hafter⟩ :=
            Prod.mk.inj ((on_attempt_of_closed hprepared hopen).symm.trans fails)
          exact ⟨hafter.symm, .inr ⟨⟨call, rfl⟩, (Except.error.inj herror).symm, rfl⟩⟩

/-- A call that succeeds has put its request into the queue and done nothing else. -/
theorem on_attempt_eq_ok {receipt : Receipt} {after : State}
    (succeeds : c.attempt.on s = (.ok receipt, after)) :
    ∃ call, c.prepared = .ok call ∧ s.isOpen = true ∧
      receipt = ⟨s.acks.length, call.topic⟩ ∧ after = taken s call := by
  cases hprepared : c.prepared with
  | error e => exact nomatch (on_attempt_of_error hprepared s).symm.trans succeeds
  | ok call =>
      cases hopen : s.isOpen with
      | false => exact nomatch (on_attempt_of_closed hprepared hopen).symm.trans succeeds
      | true =>
          obtain ⟨hreceipt, hafter⟩ :=
            Prod.mk.inj ((on_attempt_of_open hprepared hopen).symm.trans succeeds)
          exact ⟨call, rfl, rfl, (Except.ok.inj hreceipt).symm, hafter.symm⟩

end Call

/-! ## Runs with calls -/

theorem play_call_eq_some {c : Call} {rest : List Event}
    {answers : List (Except ClientError Receipt)}
    (played : play s (.call c :: rest) = some (answers, t)) :
    ∃ answer after others, c.attempt.on s = (answer, after) ∧
      play after rest = some (others, t) ∧ answers = answer :: others := by
  obtain ⟨⟨others, last⟩, hrest, hanswers⟩ := Option.map_eq_some_iff.mp played
  obtain ⟨rfl, rfl⟩ := Prod.mk.inj hanswers
  exact ⟨_, _, others, rfl, hrest, rfl⟩

/-- The steps that a session has taken in some events, given what their calls were
answered. -/
def stepsOf : List Event → List (Except ClientError Receipt) → List Action
  | [], _ => []
  | .step a :: rest, answers => a :: stepsOf rest answers
  | .call _ :: rest, [] => stepsOf rest []
  | .call c :: rest, answer :: answers =>
    (match answer, c.prepared with
      | .ok _, .ok call => [.submit (.of call)]
      | _, _ => []) ++ stepsOf rest answers

/-- Calls and steps together are a run of the session.  A call that succeeds is a step
of it, and one that fails is none. -/
theorem run_of_play {events : List Event} {answers : List (Except ClientError Receipt)}
    (played : play s events = some (answers, t)) : s.run? (stepsOf events answers) = some t := by
  induction events generalizing s answers with
  | nil =>
      obtain ⟨rfl, rfl⟩ := Prod.mk.inj (Option.some.inj played)
      rfl
  | cons event rest ih =>
      cases event with
      | step a =>
          obtain ⟨after, hstep, hrest⟩ := Option.bind_eq_some_iff.mp played
          show (s.step? a).bind _ = some t
          rw [hstep]
          exact ih hrest
      | call c =>
          obtain ⟨answer, after, others, hanswer, hrest, rfl⟩ := play_call_eq_some played
          cases answer with
          | error e =>
              -- No step is taken, so the rest goes on from the same state.
              obtain ⟨rfl, -⟩ := Call.on_attempt_eq_error hanswer
              exact ih hrest
          | ok receipt =>
              obtain ⟨call, hprepared, hopen, -, rfl⟩ := Call.on_attempt_eq_ok hanswer
              have hstep : s.step? (.submit (.of call)) = some (taken s call) := by
                show s.submit? _ = _
                rw [submit?_of, if_pos hopen]
              have hsteps : stepsOf (.call c :: rest) (.ok receipt :: others) =
                  .submit (.of call) :: stepsOf rest others := by
                simp [stepsOf, hprepared]
              rw [hsteps, State.run?, hstep]
              exact ih hrest

/-- Whatever state a session is in, a call of a client changes it only by succeeding.
One that fails does so because of its topic, of its value or of a closed queue, leaves
the session exactly as it was, and is followed by exactly what could happen without it.
One that succeeds puts one command into the queue, the one that carries what the
caller asked for, and is answered by the acknowledgement and the topic of this
command. -/
theorem failed_call_leaves_no_trace (c : Call) (s : State) :
    c.make s = issuedBy (c.attempt.on s) ∧
      (∀ e after, c.attempt.on s = (.error e, after) →
        after = s ∧ (IsEarly e ∨ e = .channelClosed ∧ s.isOpen = false) ∧
          ∀ more, play s (.call c :: more) =
            (play s more).map fun (answers, last) => (.error e :: answers, last)) ∧
      ∀ receipt after, c.attempt.on s = (.ok receipt, after) →
        s.isOpen = true ∧ receipt.ack = s.acks.length ∧
          ∃ command call, after =
              { s with commands := s.commands ++ [command], acks := s.acks ++ [none] } ∧
            command.request? = some (receipt.ack, call) ∧ c.prepared = .ok call ∧
              receipt.topic = call.topic := by
  refine ⟨c.make_eq s, fun e after hfails => ?_, fun receipt after hsucceeds => ?_⟩
  · obtain ⟨hsame, hcause⟩ := Call.on_attempt_eq_error hfails
    refine ⟨hsame, ?_, fun more => ?_⟩
    · rcases hcause with hearly | ⟨-, hclosed⟩
      · exact .inl (Call.isEarly_prepared hearly)
      · exact .inr hclosed
    · rw [play, hfails, hsame]
  · obtain ⟨call, hprepared, hopen, rfl, hafter⟩ := Call.on_attempt_eq_ok hsucceeds
    exact ⟨hopen, rfl, _, call, hafter, Session.request?_command_of call _, hprepared, rfl⟩

def handlingA : State :=
  (State.initial.run? [.submit (.subscribe "a" .atLeastOnce), .handle]).getD .initial

def emptyText : Call := .publish Format.text "a" "" .atMostOnce

/-- The text is refused, and then the handler is removed as if it had not been
tried. -/
theorem empty_text_not_seen :
    emptyText.attempt.on handlingA = (.error (.serialization "empty text"), handlingA) ∧
      play handlingA [.call emptyText, .call (.unsubscribe "a"), .step .handle] =
        (play handlingA [.call (.unsubscribe "a"), .step .handle]).map
          (fun (answers, last) => (.error (.serialization "empty text") :: answers, last)) ∧
      ∃ after command, (Call.unsubscribe "a").attempt.on handlingA = (.ok ⟨1, "a"⟩, after) ∧
        after.commands = [command] ∧ command.request? = some (1, .unsubscribe "a") := by
  have hfails : emptyText.attempt.on handlingA =
      (.error (.serialization "empty text"), handlingA) := rfl
  have hsucceeds : (Call.unsubscribe "a").attempt.on handlingA =
      (.ok ⟨1, "a"⟩, taken handlingA (.unsubscribe "a")) := rfl
  obtain ⟨-, hfailed, -⟩ := failed_call_leaves_no_trace emptyText handlingA
  obtain ⟨-, -, hcontinued⟩ := hfailed _ _ hfails
  obtain ⟨-, -, hissued⟩ := failed_call_leaves_no_trace (.unsubscribe "a") handlingA
  obtain ⟨-, -, command, call, hafter, hrequest, hprepared, -⟩ := hissued _ _ hsucceeds
  obtain rfl := Except.ok.inj hprepared
  exact ⟨hfails, hcontinued _, _, command, hsucceeds, congrArg State.commands hafter, hrequest⟩

/-! ## Failures in a rehearsal -/

namespace Rehearsal

theorem performAll_append (r : Rehearsal) (before after : List Step) :
    r.performAll (before ++ after) =
      (((r.performAll before).1.performAll after).1,
        (r.performAll before).2 ++ ((r.performAll before).1.performAll after).2) := by
  induction before generalizing r with
  | nil => rfl
  | cons step rest ih =>
      rw [List.cons_append, performAll, performAll]
      simp only [ih]
      rfl

variable {r : Rehearsal} {make : State → Except CallError Issued} {e : CallError}

theorem perform_failed (fails : make r.session = .error e) (handler : Option Handler)
    (use : AckUse) : ∃ reply, r.perform (.call make handler use) = (r, reply) := by
  rw [perform]
  split
  · exact ⟨.failed e, by rw [call, fails]⟩
  · exact ⟨.gone, rfl⟩

theorem performAll_failed {before : List Step}
    (fails : make (r.performAll before).1.session = .error e) (handler : Option Handler)
    (use : AckUse) (after : List Step) :
    ∃ reply, r.performAll (before ++ .call make handler use :: after) =
      ((r.performAll (before ++ after)).1,
        (r.performAll before).2 ++ reply :: ((r.performAll before).1.performAll after).2) := by
  obtain ⟨reply, hreply⟩ := perform_failed fails handler use
  refine ⟨reply, ?_⟩
  rw [performAll_append, performAll_append, performAll, hreply]

/-- A call that fails in the middle of a script changes nothing but the list of
replies: no other reply, no call of the transport, no outcome, no delivery, and
nothing of what comes later. -/
theorem take_failed {before : List Step}
    (fails : make (({ r with deliveries := [] } : Rehearsal).performAll before).1.session =
      .error e) (handler : Option Handler) (use : AckUse) (after : List Step) :
    ∃ earlier reply later,
      (r.take (before ++ after)).2.replies = earlier ++ later ∧
      r.take (before ++ .call make handler use :: after) =
        ((r.take (before ++ after)).1,
          { (r.take (before ++ after)).2 with replies := earlier ++ reply :: later }) := by
  obtain ⟨reply, hfailed⟩ := performAll_failed fails handler use after
  let start : Rehearsal := { r with deliveries := [] }
  refine ⟨(start.performAll before).2, reply, ((start.performAll before).1.performAll after).2,
    ?_, ?_⟩
  · rw [take, performAll_append]
  · rw [take, take, hfailed]

end Rehearsal

end Client

end DeviceLink
