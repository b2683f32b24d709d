import DeviceLink.Topic.Validation

/-!
# What valid values and topics are

The checks look for one fault after the other and report the first that they
find.  Here validity is said of the text itself: a value can stand in one level
of a topic (`IsLevelValue`), and a topic can be routed by its exact text
(`IsConcrete`).  The checks accept exactly these (`validateParameter_eq_ok_iff`,
`validateTopic_eq_ok_iff`), and a value is refused for the first fault that
applies to it (`validateParameter_eq_error_iff`).
-/

namespace DeviceLink

theorem hasChar_eq_true_iff {p : Char → Bool} {s : String} :
    hasChar p s = true ↔ ∃ c ∈ s.toList, p c = true :=
  List.any_eq_true

theorem hasChar_wildcard_iff {s : String} :
    hasChar isWildcard s = true ↔ '+' ∈ s.toList ∨ '#' ∈ s.toList := by
  simp only [hasChar_eq_true_iff, isWildcard, Bool.or_eq_true, decide_eq_true_eq]
  constructor
  · rintro ⟨c, hc, rfl | rfl⟩
    · exact Or.inl hc
    · exact Or.inr hc
  · rintro (hc | hc)
    · exact ⟨_, hc, Or.inl rfl⟩
    · exact ⟨_, hc, Or.inr rfl⟩

theorem hasChar_eq_iff {s : String} {c : Char} : hasChar (· = c) s = true ↔ c ∈ s.toList := by
  simp [hasChar_eq_true_iff]

/-! ## Values of parameters -/

/-- Being a value that takes exactly one level of a topic. -/
structure IsLevelValue (value : String) : Prop where
  nonempty : value ≠ ""
  short : value.utf8ByteSize ≤ 128
  plain : ∀ c ∈ value.toList, c ≠ '/' ∧ c ≠ '+' ∧ c ≠ '#' ∧ Text.isControl c = false

namespace ParameterFault

/-- When a value has a fault, whatever else is wrong with it. -/
def Applies (value : String) : ParameterFault → Prop
  | empty => value = ""
  | tooLong => 128 < value.utf8ByteSize
  | separator => '/' ∈ value.toList
  | wildcard => '+' ∈ value.toList ∨ '#' ∈ value.toList
  | control => ∃ c ∈ value.toList, Text.isControl c = true

instance decidableApplies (value : String) : DecidablePred (Applies value)
  | empty => inferInstanceAs (Decidable (value = ""))
  | tooLong => inferInstanceAs (Decidable (128 < value.utf8ByteSize))
  | separator => inferInstanceAs (Decidable ('/' ∈ value.toList))
  | wildcard => inferInstanceAs (Decidable ('+' ∈ value.toList ∨ '#' ∈ value.toList))
  | control => inferInstanceAs (Decidable (∃ c ∈ value.toList, Text.isControl c = true))

/-- The faults in the order in which they are reported. -/
def inOrder : List ParameterFault := [empty, tooLong, separator, wildcard, control]

theorem mem_inOrder (fault : ParameterFault) : fault ∈ inOrder := by
  cases fault <;> decide

/-- The fault applies, and none that would be reported before it does. -/
def IsFirst (value : String) (fault : ParameterFault) : Prop :=
  fault.Applies value ∧
    ∃ before after, inOrder = before ++ fault :: after ∧ ∀ other ∈ before, ¬ other.Applies value

end ParameterFault

open ParameterFault in
/-- The checks go through the faults in their order. -/
theorem parameterFault?_eq_find? (value : String) :
    parameterFault? value = inOrder.find? fun fault => fault.Applies value := by
  have hempty : value = "" ↔ empty.Applies value := Iff.rfl
  have hlong : parameterLimit < value.utf8ByteSize ↔ tooLong.Applies value := Iff.rfl
  have hseparator : hasChar (· = '/') value = true ↔ separator.Applies value := hasChar_eq_iff
  have hwildcard : hasChar isWildcard value = true ↔ wildcard.Applies value := hasChar_wildcard_iff
  have hcontrol : hasChar Text.isControl value = true ↔ control.Applies value :=
    hasChar_eq_true_iff
  unfold parameterFault? inOrder
  simp only [hempty, hlong, hseparator, hwildcard, hcontrol]
  by_cases first : empty.Applies value
  · simp [first]
  by_cases second : tooLong.Applies value
  · simp [first, second]
  by_cases third : separator.Applies value
  · simp [first, second, third]
  by_cases fourth : wildcard.Applies value
  · simp [first, second, third, fourth]
  by_cases fifth : control.Applies value
  · simp [first, second, third, fourth, fifth]
  · simp [first, second, third, fourth, fifth]

theorem parameterFault?_eq_some_iff {value : String} {fault : ParameterFault} :
    parameterFault? value = some fault ↔ fault.IsFirst value := by
  rw [parameterFault?_eq_find?, List.find?_eq_some_iff_append]
  simp [ParameterFault.IsFirst]

/-- A value without a fault takes one level. -/
theorem isLevelValue_iff {value : String} :
    IsLevelValue value ↔ ∀ fault : ParameterFault, ¬ fault.Applies value := by
  constructor
  · rintro ⟨hnonempty, hshort, hplain⟩ fault happlies
    cases fault with
    | empty => exact hnonempty happlies
    | tooLong => exact Nat.not_lt.mpr hshort happlies
    | separator => exact (hplain _ happlies).1 rfl
    | wildcard =>
        rcases happlies with hplus | hhash
        · exact (hplain _ hplus).2.1 rfl
        · exact (hplain _ hhash).2.2.1 rfl
    | control =>
        obtain ⟨c, hc, hcontrol⟩ := happlies
        exact absurd hcontrol (by simp [(hplain c hc).2.2.2])
  · intro hnone
    refine ⟨hnone .empty, Nat.not_lt.mp (hnone .tooLong), fun c hc => ⟨?_, ?_, ?_, ?_⟩⟩
    · rintro rfl
      exact hnone .separator hc
    · rintro rfl
      exact hnone .wildcard (Or.inl hc)
    · rintro rfl
      exact hnone .wildcard (Or.inr hc)
    · rw [← Bool.not_eq_true]
      exact fun hcontrol => hnone .control ⟨c, hc, hcontrol⟩

theorem parameterFault?_eq_none_iff {value : String} :
    parameterFault? value = none ↔ IsLevelValue value := by
  rw [isLevelValue_iff, parameterFault?_eq_find?, List.find?_eq_none]
  constructor
  · intro hnone fault
    simpa using hnone fault fault.mem_inOrder
  · intro hnone fault _
    simpa using hnone fault

theorem validateParameter_eq_ok_iff {parameter value : String} :
    validateParameter parameter value = .ok () ↔ IsLevelValue value := by
  rw [← parameterFault?_eq_none_iff, validateParameter]
  cases parameterFault? value with
  | none => simp
  | some fault => simp

theorem validateParameter_eq_error_iff {parameter value : String} {e : TopicError} :
    validateParameter parameter value = .error e ↔
      ∃ fault : ParameterFault, fault.IsFirst value ∧
        e = .invalidParameter parameter value fault := by
  simp only [← parameterFault?_eq_some_iff, validateParameter]
  cases parameterFault? value with
  | none => simp
  | some fault => simp [eq_comm]

/-! ## Topics -/

/-- Being a topic that a handler can be found for by its exact text. -/
structure IsConcrete (topic : String) : Prop where
  nonempty : topic ≠ ""
  short : topic.utf8ByteSize ≤ 256
  plain : ∀ c ∈ topic.toList, c ≠ '+' ∧ c ≠ '#' ∧ c ≠ '\x00'

theorem validateTopicLength_eq_ok_iff {topic : String} :
    validateTopicLength topic = .ok () ↔ topic.utf8ByteSize ≤ 256 := by
  unfold validateTopicLength topicLimit
  split
  · next hlong => simpa using hlong
  · next hshort => simpa using hshort

theorem validateTopicLength_eq_error_iff {topic : String} {e : TopicError} :
    validateTopicLength topic = .error e ↔
      256 < topic.utf8ByteSize ∧ e = .tooLong topic.utf8ByteSize := by
  unfold validateTopicLength topicLimit
  split
  · next hlong => simp [hlong, eq_comm]
  · next hshort => simp [hshort]

theorem topicFault?_eq_none_iff {topic : String} :
    topicFault? topic = none ↔
      topic ≠ "" ∧ ∀ c ∈ topic.toList, c ≠ '+' ∧ c ≠ '#' ∧ c ≠ '\x00' := by
  have hplain : (∀ c ∈ topic.toList, c ≠ '+' ∧ c ≠ '#' ∧ c ≠ '\x00') ↔
      ¬ ('+' ∈ topic.toList ∨ '#' ∈ topic.toList) ∧ '\x00' ∉ topic.toList := by
    constructor
    · intro heach
      refine ⟨?_, fun hnul => (heach _ hnul).2.2 rfl⟩
      rintro (hplus | hhash)
      · exact (heach _ hplus).1 rfl
      · exact (heach _ hhash).2.1 rfl
    · rintro ⟨hwildcard, hnul⟩ c hc
      refine ⟨?_, ?_, ?_⟩
      · rintro rfl
        exact hwildcard (Or.inl hc)
      · rintro rfl
        exact hwildcard (Or.inr hc)
      · rintro rfl
        exact hnul hc
  rw [hplain, ← hasChar_wildcard_iff, ← hasChar_eq_iff, topicFault?]
  by_cases hempty : topic = ""
  · simp [hempty]
  by_cases hwildcard : hasChar isWildcard topic = true
  · simp [hempty, hwildcard]
  · simp [hempty, hwildcard]

theorem validateTopic_eq_ok_iff {topic : String} :
    validateTopic topic = .ok () ↔ IsConcrete topic := by
  have hparts : IsConcrete topic ↔ topicFault? topic = none ∧ topic.utf8ByteSize ≤ 256 := by
    rw [topicFault?_eq_none_iff]
    constructor
    · rintro ⟨hnonempty, hshort, hplain⟩
      exact ⟨⟨hnonempty, hplain⟩, hshort⟩
    · rintro ⟨⟨hnonempty, hplain⟩, hshort⟩
      exact ⟨hnonempty, hshort, hplain⟩
  rw [hparts, ← validateTopicLength_eq_ok_iff, validateTopic]
  cases topicFault? topic with
  | none => simp
  | some fault => simp

end DeviceLink
