import DeviceLink.Proofs.Topic.Validity
import DeviceLink.Topic.Operation

/-!
# The levels of a topic

Splitting a topic at its separators and joining levels undo each other, as long
as no level holds a separator.  A topic that is built has the levels of its
template with a value in the place of each placeholder, and then the level of
its role (`levels_of_topic`), so everything that went into the topic can be read
off its levels.
-/

namespace DeviceLink

/-! ## Splitting and joining -/

theorem splitLevels_eq_splitOn (cs : List Char) : splitLevels cs = cs.splitOn '/' := by
  induction cs with
  | nil => rfl
  | cons c rest ih =>
      have hcons : (c :: rest).splitOn '/' =
          if c = '/' then [] :: rest.splitOn '/' else (rest.splitOn '/').modifyHead (List.cons c) := by
        simp [List.splitOn, List.splitOnP_cons_eq_if_modifyHead]
      rw [splitLevels, ih, hcons]
      cases hsplit : rest.splitOn '/' with
      | nil => exact absurd hsplit (List.splitOnP_ne_nil _ _)
      | cons level more => rfl

theorem toList_joinLevels (parts : List String) :
    (joinLevels parts).toList = ['/'].intercalate (parts.map String.toList) := by
  induction parts with
  | nil => rfl
  | cons level rest ih =>
      cases rest with
      | nil => simp [joinLevels]
      | cons next rest => simp [joinLevels, ih]

/-- A text is put together again by joining its levels. -/
theorem joinLevels_levels (text : String) : joinLevels (levels text) = text := by
  apply String.toList_inj.mp
  rw [toList_joinLevels, levels, List.map_map, splitLevels_eq_splitOn]
  simp [Function.comp_def, List.intercalate_splitOn]

theorem joinLevels_eq_intercalate (parts : List String) :
    joinLevels parts = "/".intercalate parts := by
  apply String.toList_inj.mp
  rw [toList_joinLevels, String.toList_intercalate]
  rfl

/-- The characters of joined levels are those of the levels, and separators. -/
theorem mem_joinLevels {parts : List String} {c : Char} (h : c ∈ (joinLevels parts).toList) :
    c = '/' ∨ ∃ s ∈ parts, c ∈ s.toList := by
  induction parts with
  | nil => exact absurd h (by simp [joinLevels])
  | cons level rest ih =>
      cases rest with
      | nil => exact Or.inr ⟨level, List.mem_cons_self, h⟩
      | cons next rest =>
          have hsplit : (joinLevels (level :: next :: rest)).toList =
              level.toList ++ '/' :: (joinLevels (next :: rest)).toList := by
            simp [joinLevels]
          rw [hsplit, List.mem_append, List.mem_cons] at h
          rcases h with hlevel | hslash | hrest
          · exact Or.inr ⟨level, List.mem_cons_self, hlevel⟩
          · exact Or.inl hslash
          · rcases ih hrest with hslash | ⟨s, hs, hc⟩
            · exact Or.inl hslash
            · exact Or.inr ⟨s, List.mem_cons_of_mem _ hs, hc⟩

/-- Only one empty level, or none, makes an empty text. -/
theorem joinLevels_eq_empty {parts : List String} (h : joinLevels parts = "") :
    parts = [] ∨ parts = [""] := by
  cases parts with
  | nil => exact Or.inl rfl
  | cons level rest =>
      cases rest with
      | nil => exact Or.inr (congrArg (fun s => [s]) h)
      | cons next rest =>
          have hslash : '/' ∈ (joinLevels (level :: next :: rest)).toList := by
            simp [joinLevels]
          rw [h] at hslash
          exact absurd hslash (by simp)

/-- Being a text without a separator, which can stand in one level. -/
def IsLevel (s : String) : Prop := '/' ∉ s.toList

instance (s : String) : Decidable (IsLevel s) := by
  unfold IsLevel
  infer_instance

/-- Joined levels are split where they were joined. -/
theorem levels_joinLevels {parts : List String} (each : ∀ s ∈ parts, IsLevel s)
    (some_part : parts ≠ []) : levels (joinLevels parts) = parts := by
  have hsplit : splitLevels (joinLevels parts).toList = parts.map String.toList := by
    rw [splitLevels_eq_splitOn, toList_joinLevels]
    apply List.splitOn_intercalate
    · intro cs hcs
      obtain ⟨s, hs, rfl⟩ := List.mem_map.mp hcs
      exact each s hs
    · simpa using some_part
  rw [levels, hsplit, List.map_map]
  simp [Function.comp_def]

theorem joinLevels_concat {parts : List String} (some_part : parts ≠ []) (level : String) :
    joinLevels (parts ++ [level]) = joinLevels parts ++ "/" ++ level := by
  induction parts with
  | nil => exact absurd rfl some_part
  | cons first rest ih =>
      cases rest with
      | nil => rfl
      | cons next rest =>
          have hrest := ih (by simp)
          show first ++ "/" ++ joinLevels (next :: rest ++ [level]) =
            first ++ "/" ++ joinLevels (next :: rest) ++ "/" ++ level
          rw [hrest]
          simp only [String.append_assoc]

theorem levels_append (s t : String) : levels (s ++ "/" ++ t) = levels s ++ levels t := by
  have hsplit : (s ++ "/" ++ t).toList = s.toList ++ '/' :: t.toList := by simp
  rw [levels, hsplit, splitLevels_eq_splitOn, List.splitOn, List.splitOnP_append_cons _ _ (by simp),
    List.map_append, levels, levels, splitLevels_eq_splitOn, splitLevels_eq_splitOn]
  rfl

theorem splitLevels_ne_nil (cs : List Char) : splitLevels cs ≠ [] := by
  rw [splitLevels_eq_splitOn]
  exact List.splitOnP_ne_nil _ _

theorem not_mem_of_mem_splitLevels {cs level : List Char} (h : level ∈ splitLevels cs) :
    '/' ∉ level := by
  induction cs generalizing level with
  | nil => simp_all [splitLevels]
  | cons c rest ih =>
      rw [splitLevels] at h
      split at h
      · rcases List.mem_cons.mp h with rfl | h
        · exact List.not_mem_nil
        · exact ih h
      · next hc =>
          split at h
          · obtain rfl := List.mem_singleton.mp h
            simpa using Ne.symm hc
          · next first more hrest =>
              rcases List.mem_cons.mp h with rfl | h
              · rw [List.mem_cons, not_or]
                exact ⟨Ne.symm hc, ih (hrest ▸ List.mem_cons_self)⟩
              · exact ih (hrest ▸ List.mem_cons_of_mem _ h)

theorem isLevel_of_mem_levels {s text : String} (h : s ∈ levels text) : IsLevel s := by
  obtain ⟨level, hlevel, rfl⟩ := List.mem_map.mp h
  unfold IsLevel
  rw [String.toList_ofList]
  exact not_mem_of_mem_splitLevels hlevel

/-! ## Filling a template -/

def TopicRole.segments (role : TopicRole) : List Segment :=
  role.suffix?.toList.map Segment.literal

def Segment.value? (params : TopicParams) : Segment → Option String
  | literal s => some s
  | placeholder name => params.get? name

namespace Operation

variable {op : Operation} {role : TopicRole} {params : TopicParams} {t : String}

def segments (op : Operation) : List Segment :=
  (levels op.template).filterMap Segment.ofText?

theorem isLevel_of_validateParameter {name value : String}
    (valid : validateParameter name value = .ok ()) : IsLevel value := by
  intro hslash
  exact ((validateParameter_eq_ok_iff.mp valid).plain _ hslash).1 rfl

/-- A level that is filled is read as a segment and becomes the segment's value,
which is again one level. -/
theorem fillLevel_ok {level s : String} (isLevel : IsLevel level)
    (filled : op.fillLevel params level = .ok s) :
    ∃ segment, Segment.ofText? level = some segment ∧ segment.value? params = some s ∧
      IsLevel s := by
  unfold fillLevel at filled
  split at filled
  · exact absurd filled (by simp)
  · next text hread =>
      obtain rfl := Except.ok.inj filled
      refine ⟨_, hread, rfl, ?_⟩
      -- A literal is the level itself.
      unfold Segment.ofText? at hread
      split at hread
      · split at hread
        · split at hread <;> simp at hread
        · simp at hread
      · obtain rfl := Segment.literal.inj (Option.some.inj hread)
        exact isLevel
  · next name hread =>
      split at filled
      · exact absurd filled (by simp)
      · next value hbound =>
          split at filled
          · exact absurd filled (by simp)
          · next hvalid =>
              obtain rfl := Except.ok.inj filled
              exact ⟨_, hread, hbound, isLevel_of_validateParameter hvalid⟩

theorem fillLevels_cons_ok {level : String} {rest filled : List String}
    (h : op.fillLevels params (level :: rest) = .ok filled) :
    ∃ s more, op.fillLevel params level = .ok s ∧ op.fillLevels params rest = .ok more ∧
      filled = s :: more := by
  unfold fillLevels at h
  split at h
  · exact absurd h (by simp)
  · next s hlevel =>
      split at h
      · exact absurd h (by simp)
      · next more hrest => exact ⟨s, more, hlevel, hrest, (Except.ok.inj h).symm⟩

/-- Each level that is filled becomes the value of its own segment. -/
theorem fillLevels_ok {parts filled : List String} (each : ∀ s ∈ parts, IsLevel s)
    (h : op.fillLevels params parts = .ok filled) :
    (parts.filterMap Segment.ofText?).map (·.value? params) = filled.map some ∧
      ∀ s ∈ filled, IsLevel s := by
  induction parts generalizing filled with
  | nil =>
      obtain rfl := Except.ok.inj h
      simp
  | cons level rest ih =>
      obtain ⟨s, more, hlevel, hrest, rfl⟩ := fillLevels_cons_ok h
      obtain ⟨segment, hread, hvalue, hs⟩ := fillLevel_ok (each level List.mem_cons_self) hlevel
      obtain ⟨hvalues, hmore⟩ := ih (fun s hs => each s (List.mem_cons_of_mem _ hs)) hrest
      refine ⟨?_, ?_⟩
      · rw [List.filterMap_cons_some hread, List.map_cons, List.map_cons, hvalue, hvalues]
      · intro part hpart
        rcases List.mem_cons.mp hpart with rfl | hpart
        · exact hs
        · exact hmore part hpart

/-- A topic is built if the role has one, every level can be filled, and the
levels are not too long together. -/
theorem topic_eq_ok_iff : op.topic role params = .ok t ↔
    op.supports role = true ∧ ∃ filled, op.fillLevels params (levels op.template) = .ok filled ∧
      t = joinLevels (filled ++ role.suffix?.toList) ∧ t.utf8ByteSize ≤ topicLimit := by
  unfold topic
  by_cases hsupports : op.supports role = true
  · rw [if_pos hsupports]
    cases hfilled : op.fillLevels params (levels op.template) with
    | error e => simp
    | ok filled =>
        cases hvalid : validateTopicLength (joinLevels (filled ++ role.suffix?.toList)) with
        | error e =>
            have hlong : ¬ (joinLevels (filled ++ role.suffix?.toList)).utf8ByteSize ≤ 256 :=
              mt validateTopicLength_eq_ok_iff.mpr (by simp [hvalid])
            simp only [hvalid, reduceCtorEq, false_iff, not_and, not_exists]
            rintro - _ hsame rfl
            obtain rfl := Except.ok.inj hsame
            exact hlong
        | ok u =>
            have hshort := validateTopicLength_eq_ok_iff.mp hvalid
            simp only [hvalid, Except.ok.injEq, hsupports, true_and]
            constructor
            · rintro rfl
              exact ⟨_, rfl, rfl, hshort⟩
            · rintro ⟨_, rfl, rfl, -⟩
              rfl
  · simp [hsupports]

theorem isLevel_suffix {s : String} (h : s ∈ role.suffix?.toList) : IsLevel s := by
  revert s
  cases role <;> decide

/-- A template has at least one level, so a topic has one. -/
theorem fillLevels_ne_nil {filled : List String}
    (h : op.fillLevels params (levels op.template) = .ok filled) : filled ≠ [] := by
  rintro rfl
  cases hparts : levels op.template with
  | nil =>
      rw [levels, List.map_eq_nil_iff] at hparts
      exact splitLevels_ne_nil _ hparts
  | cons level rest =>
      rw [hparts] at h
      obtain ⟨s, more, -, -, hcons⟩ := fillLevels_cons_ok h
      exact absurd hcons (by simp)

/-- The levels of a topic are those that were filled, and the role's. -/
theorem levels_joinLevels_filled {filled : List String}
    (h : op.fillLevels params (levels op.template) = .ok filled) (role : TopicRole) :
    levels (joinLevels (filled ++ role.suffix?.toList)) = filled ++ role.suffix?.toList := by
  obtain ⟨-, hlevels⟩ := fillLevels_ok (fun _ => isLevel_of_mem_levels) h
  have hsome : filled ++ role.suffix?.toList ≠ [] := by
    simp [fillLevels_ne_nil h]
  refine levels_joinLevels (fun s hs => ?_) hsome
  rcases List.mem_append.mp hs with hs | hs
  · exact hlevels s hs
  · exact isLevel_suffix hs

/-- The levels of a topic are the values of the template's segments and then the
role's. -/
theorem levels_of_topic (built : op.topic role params = .ok t) :
    (op.segments ++ role.segments).map (·.value? params) = (levels t).map some := by
  obtain ⟨-, filled, hfilled, rfl, -⟩ := topic_eq_ok_iff.mp built
  obtain ⟨hvalues, -⟩ := fillLevels_ok (fun _ => isLevel_of_mem_levels) hfilled
  rw [levels_joinLevels_filled hfilled, segments, List.map_append, hvalues, List.map_append,
    TopicRole.segments, List.map_map]
  rfl

/-- A request is answered on the topics below its own. -/
theorem topic_answer_iff {suffix : String} (request : op.topic .request params = .ok t)
    (answer : role.suffix? = some suffix) (t' : String) :
    op.topic role params = .ok t' ↔
      t' = t ++ "/" ++ suffix ∧ t'.utf8ByteSize ≤ topicLimit := by
  obtain ⟨hsupports, filled, hfilled, rfl, -⟩ := topic_eq_ok_iff.mp request
  have hbelow : joinLevels (filled ++ [suffix]) =
      joinLevels (filled ++ TopicRole.request.suffix?.toList) ++ "/" ++ suffix := by
    rw [joinLevels_concat (fillLevels_ne_nil hfilled)]
    simp [TopicRole.suffix?]
  have hrole : op.supports role = true := by
    unfold supports at hsupports ⊢
    cases hkind : op.kind with
    | event => simp [hkind, OperationKind.supports] at hsupports
    | requestResponse =>
        cases role with
        | event => exact absurd answer (by simp [TopicRole.suffix?])
        | _ => rfl
  rw [topic_eq_ok_iff, ← hbelow]
  constructor
  · rintro ⟨-, filled', hfilled', rfl, hlength⟩
    obtain rfl := Except.ok.inj (hfilled.symm.trans hfilled')
    rw [answer] at hlength ⊢
    exact ⟨rfl, hlength⟩
  · rintro ⟨rfl, hlength⟩
    refine ⟨hrole, filled, hfilled, ?_, hlength⟩
    rw [answer]
    rfl

end Operation

end DeviceLink
