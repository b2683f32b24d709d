import DeviceLink.Proofs.Client.Call
import DeviceLink.Proofs.Topic.Filling

/-!
# When a topic is built, and why not

A topic is built if the operation has one for the role, every level of the
template can be filled, and the whole is not too long; then it is the template
with every placeholder replaced, and the level of the role.  Otherwise the error
is that of the first of these conditions that fails, and of the leftmost level
that is refused (`topic_outcome`).

Subscribing and publishing look at topics once more and by other rules.  The two
agree: what is built from a template whose literals are in order is concrete
(`isConcrete_topic`), so the second look never refuses it.
-/

namespace DeviceLink

def TopicRole.ending (role : TopicRole) : String :=
  match role.suffix? with
  | some suffix => "/" ++ suffix
  | none => ""

theorem joinLevels_append_suffix {filled : List String} (some_level : filled ≠ [])
    (role : TopicRole) :
    joinLevels (filled ++ role.suffix?.toList) = "/".intercalate filled ++ role.ending := by
  unfold TopicRole.ending
  cases role.suffix? with
  | none => simp [joinLevels_eq_intercalate]
  | some suffix =>
      rw [Option.toList_some, joinLevels_concat some_level, joinLevels_eq_intercalate,
        String.append_assoc]

namespace Operation

variable {op : Operation} {role : TopicRole} {params : TopicParams} {t : String} {e : TopicError}

theorem fills_ne_nil {filled : List String}
    (fills : List.Forall₂ (Fills params) (levels op.template) filled) : filled ≠ [] :=
  fillLevels_ne_nil (fillLevels_eq_ok_iff.mpr fills)

theorem topic_eq_ok_iff_fills : op.topic role params = .ok t ↔ op.supports role = true ∧
    ∃ filled, List.Forall₂ (Fills params) (levels op.template) filled ∧
      t = "/".intercalate filled ++ role.ending ∧ t.utf8ByteSize ≤ 256 := by
  rw [topic_eq_ok_iff]
  refine and_congr_right fun _ => exists_congr fun filled => ?_
  rw [fillLevels_eq_ok_iff]
  refine and_congr_right fun hfills => ?_
  rw [joinLevels_append_suffix (fills_ne_nil hfills)]
  rfl

theorem topic_eq_error_iff : op.topic role params = .error e ↔
    (op.supports role = false ∧ e = .roleNotSupported op.name role) ∨
    (op.supports role = true ∧ op.FirstRefused params (levels op.template) e) ∨
    (op.supports role = true ∧ ∃ filled,
      List.Forall₂ (Fills params) (levels op.template) filled ∧
        256 < ("/".intercalate filled ++ role.ending).utf8ByteSize ∧
        e = .tooLong ("/".intercalate filled ++ role.ending).utf8ByteSize) := by
  unfold topic
  by_cases hsupports : op.supports role = true
  · simp only [hsupports, ite_true, true_and, Bool.true_eq_false, false_and, false_or]
    cases hfilled : op.fillLevels params (levels op.template) with
    | error e' =>
        have hrefused : op.FirstRefused params (levels op.template) e ↔ e' = e := by
          rw [← fillLevels_eq_error_iff, hfilled, Except.error.injEq]
        have hunfilled : ∀ filled, ¬ List.Forall₂ (Fills params) (levels op.template) filled := by
          intro filled hfills
          exact absurd (hfilled.symm.trans (fillLevels_eq_ok_iff.mpr hfills)) (by simp)
        simp [hrefused, hunfilled]
    | ok filled =>
        have hnone : ¬ op.FirstRefused params (levels op.template) e := by
          rw [← fillLevels_eq_error_iff, hfilled]
          simp
        have hfills : ∀ other, List.Forall₂ (Fills params) (levels op.template) other ↔
            filled = other := by
          intro other
          rw [← fillLevels_eq_ok_iff, hfilled, Except.ok.injEq]
        simp only [hnone, hfills, false_or, exists_eq_left', ← validateTopicLength_eq_error_iff,
          joinLevels_append_suffix (fillLevels_ne_nil hfilled)]
        cases validateTopicLength ("/".intercalate filled ++ role.ending) <;> simp
  · simp [hsupports, eq_comm]

/-- A topic has the levels of its template and that of its role. -/
theorem length_levels_topic (built : op.topic role params = .ok t) :
    (levels t).length = (levels op.template).length + role.suffix?.toList.length := by
  obtain ⟨-, filled, hfilled, rfl, -⟩ := topic_eq_ok_iff.mp built
  rw [levels_joinLevels_filled hfilled, List.length_append,
    (fillLevels_eq_ok_iff.mp hfilled).length_eq]

/-! ## Topics that calls accept -/

/-- The template is not empty, and its literal levels hold nothing that a concrete
topic must not hold. -/
structure IsWellSpelled (op : Operation) : Prop where
  nonempty : op.template ≠ ""
  plain : ∀ level ∈ levels op.template, IsPlain level →
    ∀ c ∈ level.toList, c ≠ '+' ∧ c ≠ '#' ∧ c ≠ '\x00'

theorem plain_of_fills (wellSpelled : op.IsWellSpelled) {level s : String}
    (listed : level ∈ levels op.template) (fills : Fills params level s) :
    ∀ c ∈ s.toList, c ≠ '+' ∧ c ≠ '#' ∧ c ≠ '\x00' := by
  cases fills with
  | literal hplain => exact wellSpelled.plain level listed hplain
  | placeholder hnamed hbound hvalid =>
      intro c hc
      obtain ⟨-, hplus, hhash, hcontrol⟩ := hvalid.plain c hc
      refine ⟨hplus, hhash, ?_⟩
      -- The NUL character is a control character.
      rintro rfl
      exact absurd hcontrol (by decide)

theorem plain_suffix (role : TopicRole) :
    ∀ s ∈ role.suffix?.toList, ∀ c ∈ s.toList, c ≠ '+' ∧ c ≠ '#' ∧ c ≠ '\x00' := by
  cases role <;> simp [TopicRole.suffix?]

/-- Only a template that is empty itself is filled with nothing. -/
theorem template_eq_empty_of_fills
    (fills : List.Forall₂ (Fills params) (levels op.template) [""]) : op.template = "" := by
  obtain ⟨level, rest, hlevel, hrest, hparts⟩ := List.forall₂_cons_right_iff.mp fills
  obtain rfl := List.forall₂_nil_right_iff.mp hrest
  have htemplate : op.template = level := by
    rw [← joinLevels_levels op.template, hparts, joinLevels]
  cases hlevel with
  | literal hplain => exact htemplate
  | placeholder hnamed hbound hvalid => exact absurd rfl hvalid.nonempty

/-- What is built from a well-spelled template is concrete. -/
theorem isConcrete_topic (wellSpelled : op.IsWellSpelled)
    (built : op.topic role params = .ok t) : IsConcrete t := by
  obtain ⟨-, filled, hfilled, rfl, hshort⟩ := topic_eq_ok_iff.mp built
  have hfills := fillLevels_eq_ok_iff.mp hfilled
  refine ⟨fun hempty => ?_, hshort, fun c hc => ?_⟩
  · rcases joinLevels_eq_empty hempty with hnone | hone
    · exact fillLevels_ne_nil hfilled (List.append_eq_nil_iff.mp hnone).1
    · cases filled with
      | nil => exact fillLevels_ne_nil hfilled rfl
      | cons first more =>
          obtain ⟨rfl, hmore⟩ := List.cons.inj hone
          obtain ⟨rfl, -⟩ := List.append_eq_nil_iff.mp hmore
          exact wellSpelled.nonempty (template_eq_empty_of_fills hfills)
  · rcases mem_joinLevels hc with rfl | ⟨s, hs, hc⟩
    · decide
    · rcases List.mem_append.mp hs with hs | hs
      · obtain ⟨level, hlevel, hfills⟩ := exists_level_of_mem hfills hs
        exact plain_of_fills wellSpelled hlevel hfills c hc
      · exact plain_suffix role s hs c hc

end Operation

/-! ## Calls -/

namespace Client

/-- Whatever is called for an operation fails on its topic exactly where the topic
is not built, and with the same error. -/
structure FailsAsBuilt (op : Operation) (role : TopicRole) (params : TopicParams) : Prop where
  answer : ∀ {Address Body Accepted Rejected : Type} [TopicBinding Address]
    (exchange : Exchange Address Body Accepted Rejected) (address : Address),
    exchange.select address = op → TopicBinding.topicParams address = params →
      ∀ s qos e, subscribeAnswer exchange role s address qos = .error (.topic e) ↔
        op.topic role params = .error e
  events : ∀ {Address Event : Type} [TopicBinding Address] (stream : EventStream Address Event)
    (address : Address), role = .event →
    stream.select address = op → TopicBinding.topicParams address = params →
      ∀ s qos e, subscribeEvents stream s address qos = .error (.topic e) ↔
        op.topic role params = .error e
  request : ∀ {Address Body Accepted Rejected : Type} [TopicBinding Address] [Payload Body]
    (exchange : Exchange Address Body Accepted Rejected) (request : Request Address Body),
    role = .request →
    exchange.select request.address = op → TopicBinding.topicParams request.address = params →
      ∀ s qos e, publishRequest exchange s request qos = .error (.topic e) ↔
        op.topic role params = .error e

theorem failsAsBuilt_of_isWellSpelled {op : Operation} (wellSpelled : op.IsWellSpelled)
    (role : TopicRole) (params : TopicParams) : FailsAsBuilt op role params where
  answer := by
    rintro Address Body Accepted Rejected _ exchange address rfl rfl s qos e
    exact fails_iff_not_built fun topic hbuilt =>
      subscribe_ne_topic (Operation.isConcrete_topic wellSpelled hbuilt)
  events := by
    rintro Address Event _ stream address rfl rfl rfl s qos e
    exact fails_iff_not_built fun topic hbuilt =>
      subscribe_ne_topic (Operation.isConcrete_topic wellSpelled hbuilt)
  request := by
    rintro Address Body Accepted Rejected _ _ exchange request rfl rfl rfl s qos e
    exact fails_iff_not_built fun topic hbuilt =>
      publish_ne_topic (Operation.isConcrete_topic wellSpelled hbuilt) _ _

end Client

/-- When a topic is built, which one, and which error stands in its place
otherwise.  The template is read level by level; the leftmost level that is
refused decides, and the length is looked at last.  A topic that is built from a
well-spelled template is accepted wherever topics are checked again, so calls for
such an operation fail on topics only as building does. -/
theorem topic_outcome (op : Operation) (role : TopicRole) (params : TopicParams) :
    ("/".intercalate (levels op.template) = op.template ∧
      ∀ level ∈ levels op.template, '/' ∉ level.toList) ∧
    (∀ t, op.topic role params = .ok t ↔ op.supports role = true ∧
      ∃ filled, List.Forall₂ (Fills params) (levels op.template) filled ∧
        t = "/".intercalate filled ++ role.ending ∧ t.utf8ByteSize ≤ 256) ∧
    (∀ t, op.topic role params = .ok t →
      (levels t).length = (levels op.template).length + role.suffix?.toList.length) ∧
    (∀ e, op.topic role params = .error e ↔
      (op.supports role = false ∧ e = .roleNotSupported op.name role) ∨
      (op.supports role = true ∧ op.FirstRefused params (levels op.template) e) ∨
      (op.supports role = true ∧ ∃ filled,
        List.Forall₂ (Fills params) (levels op.template) filled ∧
          256 < ("/".intercalate filled ++ role.ending).utf8ByteSize ∧
          e = .tooLong ("/".intercalate filled ++ role.ending).utf8ByteSize)) ∧
    (op.IsWellSpelled →
      (∀ t, op.topic role params = .ok t → validateTopic t = .ok ()) ∧
        Client.FailsAsBuilt op role params) := by
  refine ⟨⟨?_, fun _ => isLevel_of_mem_levels⟩, fun t => Operation.topic_eq_ok_iff_fills,
    fun t => Operation.length_levels_topic, fun e => Operation.topic_eq_error_iff, ?_⟩
  · rw [← joinLevels_eq_intercalate, joinLevels_levels]
  · intro hspelled
    refine ⟨fun t hbuilt => ?_, Client.failsAsBuilt_of_isWellSpelled hspelled role params⟩
    exact validateTopic_eq_ok_iff.mpr (Operation.isConcrete_topic hspelled hbuilt)

/-- The leftmost level decides, also where a later one is worse. -/
example :
    (⟨"fleet", "report", "fleet/\x7bgroup\x7d/\x7bunit\x7d/\x7b", .event⟩ : Operation).topic .event
      ⟨[("unit", some "a/b")]⟩ = .error (.missingParameter "report" "group") := by
  rfl

def fleetReport : Operation :=
  ⟨"fleet", "report", "fleet/\x7bgroup\x7d/\x7bunit\x7d/\x7bgroup\x7d", .requestResponse⟩

/-- Parameters that come in another order than the template asks for them. -/
def fleetParams : TopicParams :=
  ⟨[("unit", some "7"), ("group", some "north pole"), ("site", none)]⟩

theorem repeated_name_filled :
    fleetReport.IsWellSpelled ∧
      fleetReport.topic .accepted fleetParams = .ok "fleet/north pole/7/north pole/accepted" ∧
      validateTopic "fleet/north pole/7/north pole/accepted" = .ok () ∧
      Client.FailsAsBuilt fleetReport .accepted fleetParams := by
  have hlevels : levels fleetReport.template =
      ["fleet", inBraces "group", inBraces "unit", inBraces "group"] := by rfl
  have hspelled : fleetReport.IsWellSpelled := by
    refine ⟨by decide, ?_⟩
    -- Only the first level is a literal one.
    rw [hlevels]
    simp [not_isPlain_inBraces]
  have hbuilt : fleetReport.topic .accepted fleetParams =
      .ok "fleet/north pole/7/north pole/accepted" := by rfl
  obtain ⟨-, -, -, -, haccepted⟩ := topic_outcome fleetReport .accepted fleetParams
  obtain ⟨hvalid, hcalls⟩ := haccepted hspelled
  exact ⟨hspelled, hbuilt, hvalid _ hbuilt, hcalls⟩

end DeviceLink
