import DeviceLink.Client.Call
import DeviceLink.Proofs.Topic.Validity

/-!
# When a call succeeds

A topic that a caller gives is looked at before anything else, so a call that
succeeds has a concrete topic, and one with a concrete topic can only fail for
another reason.
-/

namespace DeviceLink.Client

open Session (State Submission)

variable {s : State} {topic : String} {qos : QoS} {issued : Issued} {e : TopicError}

theorem checkTopic_eq_ok_iff : checkTopic topic = .ok () ↔ IsConcrete topic := by
  rw [← validateTopic_eq_ok_iff, checkTopic]
  cases validateTopic topic with
  | error e => exact iff_of_false nofun nofun
  | ok u => exact iff_of_true rfl rfl

theorem subscribe_eq_ok_iff : subscribe s topic qos = .ok issued ↔
    IsConcrete topic ∧ issue s topic (.subscribe topic qos) = .ok issued := by
  rw [← checkTopic_eq_ok_iff, subscribe]
  cases checkTopic topic <;> simp

theorem publish_eq_ok_iff {α : Type} {format : Format α} {data : α} :
    publish format s topic data qos = .ok issued ↔ IsConcrete topic ∧
      ∃ payload, format.write data = .ok payload ∧
        issue s topic (.publish topic payload qos) = .ok issued := by
  rw [← checkTopic_eq_ok_iff, publish]
  cases checkTopic topic with
  | error e => simp
  | ok u => cases format.write data <;> simp

/-- The session has no opinion on topics. -/
theorem issue_ne_topic (what : Submission) : issue s topic what ≠ .error (.topic e) := by
  unfold issue submit
  cases s.submit? what <;> simp

theorem subscribe_ne_topic (concrete : IsConcrete topic) :
    subscribe s topic qos ≠ .error (.topic e) := by
  rw [subscribe, checkTopic_eq_ok_iff.mpr concrete]
  exact issue_ne_topic _

theorem publish_ne_topic {α : Type} (concrete : IsConcrete topic) (format : Format α) (data : α) :
    publish format s topic data qos ≠ .error (.topic e) := by
  rw [publish, checkTopic_eq_ok_iff.mpr concrete]
  cases format.write data with
  | error reason => simp
  | ok payload => exact issue_ne_topic _

/-! ## Calls that build their topic -/

variable {build : Except TopicError String} {call : String → Except ClientError Issued}

/-- A call that builds its topic first succeeds with the topic that was built. -/
theorem exists_built (succeeds : (match build with
      | .error e => (.error (.topic e) : Except ClientError Issued)
      | .ok topic => call topic) = .ok issued) :
    ∃ topic, build = .ok topic ∧ call topic = .ok issued := by
  cases build with
  | error e => exact absurd succeeds (by simp)
  | ok topic => exact ⟨topic, rfl, succeeds⟩

/-- It fails on the topic as building does, if what is built is accepted. -/
theorem fails_iff_not_built
    (accepted : ∀ topic, build = .ok topic → call topic ≠ .error (.topic e)) :
    (match build with
      | .error e => (.error (.topic e) : Except ClientError Issued)
      | .ok topic => call topic) = .error (.topic e) ↔ build = .error e := by
  cases build with
  | error e' => simp
  | ok topic => simp [accepted topic rfl]

end DeviceLink.Client
