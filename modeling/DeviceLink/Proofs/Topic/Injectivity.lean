import DeviceLink.Proofs.Topic.Filling

/-!
# A topic tells its role and its parameters

The template may be any text, and so may the values.  A topic that is built has
as many levels as the template, and one more for an answer, so topics of
different roles differ; and each placeholder has a level of its own, in which
nothing but its value stands.
-/

namespace DeviceLink

/-- Roles of one kind of operation are told apart by the level that they add. -/
theorem OperationKind.eq_of_suffix?_eq : ∀ {kind : OperationKind} {role role' : TopicRole},
    kind.supports role = true → kind.supports role' = true → role.suffix? = role'.suffix? →
      role = role' := by
  intro kind role role'
  cases kind <;> cases role <;> cases role' <;> decide

namespace Operation

variable {op : Operation} {role role' : TopicRole} {params params' : TopicParams} {t : String}

/-- Equal topics are filled alike and end alike. -/
theorem filled_alike (built : op.topic role params = .ok t)
    (built' : op.topic role' params' = .ok t) :
    role.suffix? = role'.suffix? ∧ ∃ filled,
      List.Forall₂ (Fills params) (levels op.template) filled ∧
        List.Forall₂ (Fills params') (levels op.template) filled := by
  obtain ⟨-, filled, hfilled, htopic, -⟩ := topic_eq_ok_iff.mp built
  obtain ⟨-, filled', hfilled', htopic', -⟩ := topic_eq_ok_iff.mp built'
  have hfills := fillLevels_eq_ok_iff.mp hfilled
  have hfills' := fillLevels_eq_ok_iff.mp hfilled'
  -- Both have the levels of the one topic, and equally many before the role's.
  have hlevels : filled ++ role.suffix?.toList = filled' ++ role'.suffix?.toList := by
    rw [← levels_joinLevels_filled hfilled, ← levels_joinLevels_filled hfilled', ← htopic, htopic']
  have hlength : filled.length = filled'.length := hfills.length_eq.symm.trans hfills'.length_eq
  obtain ⟨rfl, hsuffix⟩ := List.append_inj hlevels hlength
  refine ⟨?_, filled, hfills, hfills'⟩
  cases hrole : role.suffix? <;> cases hrole' : role'.suffix? <;> simp_all

end Operation

/-- Topics of one operation are equal only for the same role and the same
parameters, as far as the template asks for them. -/
theorem topic_tells_parameters {op : Operation} {role role' : TopicRole}
    {params params' : TopicParams} {t : String} (built : op.topic role params = .ok t)
    (built' : op.topic role' params' = .ok t) :
    role = role' ∧ ∀ name ∈ op.parameterNames,
      ∃ value, params.get? name = some value ∧ params'.get? name = some value := by
  obtain ⟨hsuffix, filled, hfills, hfills'⟩ := Operation.filled_alike built built'
  have hsupports := (Operation.topic_eq_ok_iff.mp built).1
  have hsupports' := (Operation.topic_eq_ok_iff.mp built').1
  refine ⟨OperationKind.eq_of_suffix?_eq hsupports hsupports' hsuffix, fun name hname => ?_⟩
  obtain ⟨level, hlevel, hinside⟩ := List.mem_filterMap.mp hname
  obtain rfl := insideBraces?_eq_some_iff.mp hinside
  -- The level of the placeholder holds the value of both.
  obtain ⟨i, hi, hplace⟩ := List.mem_iff_getElem.mp hlevel
  have hi' : i < filled.length := hfills.length_eq ▸ hi
  have hvalue : Fills params (inBraces name) filled[i] := hplace ▸ hfills.get hi hi'
  have hvalue' : Fills params' (inBraces name) filled[i] := hplace ▸ hfills'.get hi hi'
  obtain ⟨-, hbound, -⟩ := fills_inBraces_iff.mp hvalue
  obtain ⟨-, hbound', -⟩ := fills_inBraces_iff.mp hvalue'
  exact ⟨filled[i], hbound, hbound'⟩

/-- A template with empty levels that asks for one name twice. -/
def twiceAsked : Operation :=
  ⟨"custom", "copy", "//\x7bx\x7d//\x7by\x7d/\x7bx\x7d", .requestResponse⟩

/-- The order of the bindings and what the template does not ask for make no
difference. -/
theorem twice_asked_told :
    (twiceAsked.topic .rejected ⟨[("x", some "1"), ("y", some "rejected")]⟩ =
        .ok "//1//rejected/1/rejected" ∧
      twiceAsked.topic .rejected ⟨[("z", some "0"), ("y", some "rejected"), ("x", some "1")]⟩ =
        .ok "//1//rejected/1/rejected") ∧
      "y" ∈ twiceAsked.parameterNames ∧
      ∃ value,
        (⟨[("x", some "1"), ("y", some "rejected")]⟩ : TopicParams).get? "y" = some value ∧
          (⟨[("z", some "0"), ("y", some "rejected"), ("x", some "1")]⟩ : TopicParams).get? "y" =
            some value := by
  have hbuilt : twiceAsked.topic .rejected ⟨[("x", some "1"), ("y", some "rejected")]⟩ =
      .ok "//1//rejected/1/rejected" := by rfl
  have hbuilt' : twiceAsked.topic .rejected
      ⟨[("z", some "0"), ("y", some "rejected"), ("x", some "1")]⟩ =
        .ok "//1//rejected/1/rejected" := by rfl
  have hname : "y" ∈ twiceAsked.parameterNames := by decide
  exact ⟨⟨hbuilt, hbuilt'⟩, hname, (topic_tells_parameters hbuilt hbuilt').2 "y" hname⟩

end DeviceLink
