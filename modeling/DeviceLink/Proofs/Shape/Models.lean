import DeviceLink.Client.Format
import DeviceLink.Proofs.Shape.RoundTrip
import DeviceLink.Shadow.Model

/-!
# Every type of the two services

`Model` names the types whose values go over the wire: requests and their
answers, events, and the data in them.  A value of a model is a body with an
address beside it, which only requests have.  Every model can be written as a
document and read back (`Model.document_round_trip`).
-/

namespace DeviceLink

inductive Model
  | jobExecutionData
  | jobExecutionState
  | jobExecutionSummary
  | rejectedError
  | describeJobExecutionRequest
  | describeJobExecutionResponse
  | updateJobExecutionRequest
  | updateJobExecutionResponse
  | getPendingJobExecutionsRequest
  | getPendingJobExecutionsResponse
  | startNextPendingJobExecutionRequest
  | startNextJobExecutionResponse
  | jobExecutionsChangedEvent
  | nextJobExecutionChangedEvent
  | shadowState
  | shadowStateWithDelta
  | shadowMetadata
  | errorResponse
  | getShadowRequest
  | getShadowResponse
  | updateShadowRequest
  | updateShadowResponse
  | deleteShadowRequest
  | deleteShadowResponse
  | shadowDeltaUpdatedEvent
  | shadowUpdatedSnapshot
  | shadowUpdatedEvent
deriving DecidableEq, Repr

theorem TopicParams.get?_of_unbound {params : TopicParams}
    (unbound : ∀ b ∈ params.bindings, b.2 = none) (name : String) : params.get? name = none := by
  cases hfound : params.bindings.lookup name with
  | none => rw [get?, hfound, Option.join_none]
  | some value =>
      obtain ⟨pre, post, hsplit, -⟩ := List.lookup_eq_some_iff.mp hfound
      have hvalue : value = none := unbound (name, value) (by rw [hsplit]; simp)
      rw [get?, hfound, hvalue]
      rfl

inductive Addressing
  /-- Only requests are addressed. -/
  | none
  | thing
  | job
  | shadow
deriving DecidableEq, Repr

namespace Addressing

def Address : Addressing → Type
  | none => Unit
  | thing => ThingAddress
  | job => JobAddress
  | shadow => ShadowAddress

instance : (a : Addressing) → Inhabited a.Address
  | none => inferInstanceAs (Inhabited Unit)
  | thing => inferInstanceAs (Inhabited ThingAddress)
  | job => inferInstanceAs (Inhabited JobAddress)
  | shadow => inferInstanceAs (Inhabited ShadowAddress)

instance : (a : Addressing) → TopicBinding a.Address
  | none => ⟨fun _ => .empty⟩
  | thing => inferInstanceAs (TopicBinding ThingAddress)
  | job => inferInstanceAs (TopicBinding JobAddress)
  | shadow => inferInstanceAs (TopicBinding ShadowAddress)

theorem get?_default (a : Addressing) (name : String) :
    (TopicBinding.topicParams (default : a.Address)).get? name = Option.none := by
  apply TopicParams.get?_of_unbound
  cases a <;> decide

end Addressing

namespace Model

def Body : Model → Type
  | jobExecutionData => JobExecutionData
  | jobExecutionState => JobExecutionState
  | jobExecutionSummary => JobExecutionSummary
  | rejectedError => RejectedError
  | describeJobExecutionRequest => DescribeJobExecutionRequest
  | describeJobExecutionResponse => DescribeJobExecutionResponse
  | updateJobExecutionRequest => UpdateJobExecutionRequest
  | updateJobExecutionResponse => UpdateJobExecutionResponse
  | getPendingJobExecutionsRequest => GetPendingJobExecutionsRequest
  | getPendingJobExecutionsResponse => GetPendingJobExecutionsResponse
  | startNextPendingJobExecutionRequest => StartNextPendingJobExecutionRequest
  | startNextJobExecutionResponse => StartNextJobExecutionResponse
  | jobExecutionsChangedEvent => JobExecutionsChangedEvent
  | nextJobExecutionChangedEvent => NextJobExecutionChangedEvent
  | shadowState => ShadowState
  | shadowStateWithDelta => ShadowStateWithDelta
  | shadowMetadata => ShadowMetadata
  | errorResponse => ErrorResponse
  | getShadowRequest => GetShadowRequest
  | getShadowResponse => GetShadowResponse
  | updateShadowRequest => UpdateShadowRequest
  | updateShadowResponse => UpdateShadowResponse
  | deleteShadowRequest => DeleteShadowRequest
  | deleteShadowResponse => DeleteShadowResponse
  | shadowDeltaUpdatedEvent => ShadowDeltaUpdatedEvent
  | shadowUpdatedSnapshot => ShadowUpdatedSnapshot
  | shadowUpdatedEvent => ShadowUpdatedEvent

instance payload : (m : Model) → Payload m.Body
  | jobExecutionData => inferInstanceAs (Payload JobExecutionData)
  | jobExecutionState => inferInstanceAs (Payload JobExecutionState)
  | jobExecutionSummary => inferInstanceAs (Payload JobExecutionSummary)
  | rejectedError => inferInstanceAs (Payload RejectedError)
  | describeJobExecutionRequest => inferInstanceAs (Payload DescribeJobExecutionRequest)
  | describeJobExecutionResponse => inferInstanceAs (Payload DescribeJobExecutionResponse)
  | updateJobExecutionRequest => inferInstanceAs (Payload UpdateJobExecutionRequest)
  | updateJobExecutionResponse => inferInstanceAs (Payload UpdateJobExecutionResponse)
  | getPendingJobExecutionsRequest => inferInstanceAs (Payload GetPendingJobExecutionsRequest)
  | getPendingJobExecutionsResponse => inferInstanceAs (Payload GetPendingJobExecutionsResponse)
  | startNextPendingJobExecutionRequest =>
    inferInstanceAs (Payload StartNextPendingJobExecutionRequest)
  | startNextJobExecutionResponse => inferInstanceAs (Payload StartNextJobExecutionResponse)
  | jobExecutionsChangedEvent => inferInstanceAs (Payload JobExecutionsChangedEvent)
  | nextJobExecutionChangedEvent => inferInstanceAs (Payload NextJobExecutionChangedEvent)
  | shadowState => inferInstanceAs (Payload ShadowState)
  | shadowStateWithDelta => inferInstanceAs (Payload ShadowStateWithDelta)
  | shadowMetadata => inferInstanceAs (Payload ShadowMetadata)
  | errorResponse => inferInstanceAs (Payload ErrorResponse)
  | getShadowRequest => inferInstanceAs (Payload GetShadowRequest)
  | getShadowResponse => inferInstanceAs (Payload GetShadowResponse)
  | updateShadowRequest => inferInstanceAs (Payload UpdateShadowRequest)
  | updateShadowResponse => inferInstanceAs (Payload UpdateShadowResponse)
  | deleteShadowRequest => inferInstanceAs (Payload DeleteShadowRequest)
  | deleteShadowResponse => inferInstanceAs (Payload DeleteShadowResponse)
  | shadowDeltaUpdatedEvent => inferInstanceAs (Payload ShadowDeltaUpdatedEvent)
  | shadowUpdatedSnapshot => inferInstanceAs (Payload ShadowUpdatedSnapshot)
  | shadowUpdatedEvent => inferInstanceAs (Payload ShadowUpdatedEvent)

def addressing : Model → Addressing
  | describeJobExecutionRequest | updateJobExecutionRequest => .job
  | getPendingJobExecutionsRequest | startNextPendingJobExecutionRequest => .thing
  | getShadowRequest | updateShadowRequest | deleteShadowRequest => .shadow
  | _ => .none

abbrev Address (m : Model) : Type := m.addressing.Address

abbrev Value (m : Model) : Type := Request m.Address m.Body

theorem wellFormed_shape (m : Model) : (Payload.shape m.Body).wellFormed = true := by
  cases m <;> rfl

/-- The document of a value has an object for every record, with the present
members under their names and no others.  It holds the whole body and nothing of
the address: reading it gives the body back with an address that binds no
parameter, and values that differ in their address alone have one document. -/
theorem document_round_trip (m : Model) (x : m.Value) :
    (Payload.shape m.Body).Describes (Payload.toVal x.body) x.toDocument ∧
      Request.ofDocument m.Address m.Body x.toDocument = .ok ⟨default, x.body⟩ ∧
      (∀ name, (TopicBinding.topicParams (default : m.Address)).get? name = none) ∧
      ∀ other : m.Address, (⟨other, x.body⟩ : m.Value).toDocument = x.toDocument := by
  refine ⟨?_, ?_, ?_, ?_⟩
  · exact Payload.describes_toDocument m.wellFormed_shape x.body
  · have hbody := Payload.ofDocument_toDocument m.wellFormed_shape x.body
    rw [Request.ofDocument, Request.toDocument, hbody]
    rfl
  · exact m.addressing.get?_default
  · intro other
    rfl

example : Payload.toDocument (⟨some .null, none⟩ : ShadowState) =
    .ofMembers [("desired", .null)] := rfl

end Model

end DeviceLink
