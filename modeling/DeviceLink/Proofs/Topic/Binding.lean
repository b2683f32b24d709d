import DeviceLink.Proofs.Document.Dict
import DeviceLink.Proofs.Topic.Outcome
import Mathlib.Data.List.Induction
import Mathlib.Data.List.ReduceOption

/-!
# Which bindings a topic depends on

Parameters are bound one after the other, and any name may be bound again.  What
counts in the end is the last binding of each name that the template asks for: two
series of bindings that agree there give the same topic or the same error
(`Operation.topic_reads_last_bindings`).

The names that a template asks for are listed without checking the template, while
building reads each level on its own.  Building shows what it does with a level
(`Operation.Treats`), and where no level is malformed the names that are listed are
those it substitutes.
-/

namespace DeviceLink

/-! ## The last binding counts -/

/-- The value that a name was bound to last.  There is none if it was last bound to
nothing, or never bound. -/
def lastBinding? (series : List (String × Option String)) (name : String) : Option String :=
  (series.filter (·.1 = name)).getLast?.bind (·.2)

theorem lastBinding?_concat (series : List (String × Option String)) (name other : String)
    (value : Option String) :
    lastBinding? (series ++ [(other, value)]) name =
      if other = name then value else lastBinding? series name := by
  rw [lastBinding?, List.filter_append]
  by_cases hname : other = name
  · simp [hname]
  · simp [hname, lastBinding?]

namespace TopicParams

theorem lookup_bindIn (name other : String) (value : Option String)
    (bindings : List (String × Option String)) :
    (bindIn other value bindings).lookup name =
      if other = name then some value else bindings.lookup name := by
  induction bindings with
  | nil => simp [bindIn, Dict.lookup_cons, eq_comm]
  | cons b rest ih =>
      obtain ⟨n, v⟩ := b
      rw [bindIn]
      split
      · next hsame =>
          subst hsame
          simp only [Dict.lookup_cons, eq_comm (a := name)]
          split <;> rfl
      · next hother =>
          rw [Dict.lookup_cons, Dict.lookup_cons, ih]
          by_cases hname : name = n
          · rw [if_pos hname, if_pos hname, if_neg (fun h => hother (h.trans hname).symm)]
          · rw [if_neg hname, if_neg hname]

theorem get?_bind (params : TopicParams) (name other : String) (value : Option String) :
    (params.bind other value).get? name = if other = name then value else params.get? name := by
  rw [get?, get?, bind, lookup_bindIn]
  split <;> rfl

/-- Of several bindings of a name the last one counts. -/
theorem get?_ofList (series : List (String × Option String)) (name : String) :
    (ofList series).get? name = lastBinding? series name := by
  induction series using List.reverseRecOn with
  | nil => rfl
  | append_singleton series b ih =>
      have hstep : ofList (series ++ [b]) = (ofList series).bind b.1 b.2 := by
        simp [ofList, List.foldl_append]
      rw [hstep, get?_bind, lastBinding?_concat, ih]

end TopicParams

/-! ## What a template asks for -/

theorem insideBraces?_eq_none {level : String} (plain : IsPlain level) :
    insideBraces? level = none := by
  apply Option.eq_none_iff_forall_not_mem.mpr
  intro name hinside
  obtain rfl := insideBraces?_eq_some_iff.mp hinside
  exact not_isPlain_inBraces name plain

theorem Segment.eq_inBraces_of_ofText? {level name : String}
    (read : ofText? level = some (.placeholder name)) : level = inBraces name := by
  unfold ofText? at read
  split at read
  · split at read
    · next inside hinside =>
        split at read
        · exact nomatch read
        · obtain rfl := Segment.placeholder.inj (Option.some.inj read)
          exact insideBraces?_eq_some_iff.mp hinside
    · exact nomatch read
  · exact nomatch Option.some.inj read

namespace Operation

variable {op : Operation} {role : TopicRole} {params params' : TopicParams}
  {level name : String}

theorem mem_parameterNames_iff : name ∈ op.parameterNames ↔ inBraces name ∈ levels op.template := by
  rw [parameterNames, List.mem_filterMap]
  constructor
  · rintro ⟨level, hlevel, hinside⟩
    exact insideBraces?_eq_some_iff.mp hinside ▸ hlevel
  · intro hlevel
    exact ⟨inBraces name, hlevel, insideBraces?_eq_some_iff.mpr rfl⟩

/-- A level is filled by the value of the name that it has in braces, and by nothing
else of the parameters. -/
theorem fillLevel_congr
    (same : ∀ name, level = inBraces name → params.get? name = params'.get? name) :
    op.fillLevel params level = op.fillLevel params' level := by
  unfold fillLevel
  cases hread : Segment.ofText? level with
  | none => rfl
  | some segment =>
      cases segment with
      | literal s => rfl
      | placeholder name =>
          have hvalue := same name (Segment.eq_inBraces_of_ofText? hread)
          simp only [hvalue]

theorem fillLevels_congr {parts : List String}
    (same : ∀ level ∈ parts, op.fillLevel params level = op.fillLevel params' level) :
    op.fillLevels params parts = op.fillLevels params' parts := by
  induction parts with
  | nil => rfl
  | cons level rest ih =>
      obtain ⟨hlevel, hrest⟩ := List.forall_mem_cons.mp same
      rw [fillLevels, fillLevels, hlevel, ih hrest]

/-- Parameters that agree on what the template asks for give the same result. -/
theorem topic_congr (same : ∀ name ∈ op.parameterNames, params.get? name = params'.get? name) :
    op.topic role params = op.topic role params' := by
  have hfilled : op.fillLevels params (levels op.template) =
      op.fillLevels params' (levels op.template) := by
    apply fillLevels_congr
    intro level hlevel
    apply fillLevel_congr
    rintro name rfl
    exact same name (mem_parameterNames_iff.mpr hlevel)
  rw [topic, topic, hfilled]

/-- A parameter is only missing if the template asks for it. -/
theorem missing_of_topic {operation : String}
    (missing : op.topic role params = .error (.missingParameter operation name)) :
    operation = op.name ∧ name ∈ op.parameterNames ∧ params.get? name = none := by
  rcases topic_eq_error_iff.mp missing with ⟨-, herror⟩ | ⟨-, hrefused⟩ | ⟨-, filled, -, -, herror⟩
  · exact nomatch herror
  · obtain ⟨before, level, after, hlevels, -, hrefuses⟩ := hrefused
    cases hrefuses with
    | missing hnamed hunbound =>
        refine ⟨rfl, mem_parameterNames_iff.mpr ?_, hunbound⟩
        rw [hlevels]
        exact List.mem_append_right _ List.mem_cons_self
  · exact nomatch herror

/-! ## Which names are substituted -/

def IsWellFormed (op : Operation) : Prop :=
  ∀ level ∈ levels op.template, IsPlain level ∨ ∃ name, IsName name ∧ level = inBraces name

/-- What building does with a level of the template: it keeps the level whatever the
parameters are, or puts the value of one parameter in its place. -/
inductive Treats (op : Operation) (level : String) : Option String → Prop
  | keeps (always : ∀ params, op.fillLevel params level = .ok level) : Treats op level none
  | substitutes {name : String}
      (value : ∀ params s, op.fillLevel params level = .ok s ↔
        params.get? name = some s ∧ IsLevelValue s) : Treats op level (some name)

theorem treats_of_isPlain (plain : IsPlain level) : op.Treats level none :=
  .keeps fun _ => fillLevel_of_fills (.literal plain)

theorem treats_inBraces (named : IsName name) : op.Treats (inBraces name) (some name) :=
  .substitutes fun params s => by
    rw [fillLevel_eq_ok_iff, fills_inBraces_iff, and_iff_right named]

/-- A level is treated in one way only, which parameters that bind one name show. -/
theorem Treats.unique {slot slot' : Option String} (treats : op.Treats level slot)
    (treats' : op.Treats level slot') : slot = slot' := by
  have hunbound (name s : String) : TopicParams.empty.get? name ≠ some s := nofun
  have hvalue : IsLevelValue "x" := parameterFault?_eq_none_iff.mp (by decide)
  cases treats with
  | keeps halways =>
      cases treats' with
      | keeps _ => rfl
      | substitutes hsubst =>
          have hbound := ((hsubst .empty level).mp (halways .empty)).1
          exact absurd hbound (hunbound _ _)
  | @substitutes name hsubst =>
      cases treats' with
      | keeps halways =>
          have hbound := ((hsubst .empty level).mp (halways .empty)).1
          exact absurd hbound (hunbound _ _)
      | @substitutes name' hsubst' =>
          have hget (other : String) : (TopicParams.empty.bind name (some "x")).get? other =
              if name = other then some "x" else none := TopicParams.get?_bind _ _ _ _
          have hfilled := (hsubst (TopicParams.empty.bind name (some "x")) "x").mpr
            ⟨by rw [hget, if_pos rfl], hvalue⟩
          have hbound := ((hsubst' _ _).mp hfilled).1
          rw [hget] at hbound
          split at hbound
          · next hsame => exact congrArg some hsame
          · exact nomatch hbound

/-- What stands between the braces of a level is what building substitutes for it. -/
theorem treats_insideBraces?
    (readable : IsPlain level ∨ ∃ name, IsName name ∧ level = inBraces name) :
    op.Treats level (insideBraces? level) := by
  rcases readable with hplain | ⟨name, hnamed, rfl⟩
  · exact insideBraces?_eq_none hplain ▸ treats_of_isPlain hplain
  · exact insideBraces?_eq_some_iff.mpr rfl ▸ treats_inBraces hnamed

theorem treats_levels (wellFormed : op.IsWellFormed) :
    List.Forall₂ op.Treats (levels op.template) ((levels op.template).map insideBraces?) := by
  apply List.forall₂_map_right_iff.mpr
  apply List.forall₂_same.mpr
  exact fun level hlevel => treats_insideBraces? (wellFormed level hlevel)

theorem parameterNames_eq_reduceOption :
    op.parameterNames = ((levels op.template).map insideBraces?).reduceOption := by
  rw [parameterNames, List.reduceOption, List.filterMap_map]
  rfl

/-- A topic depends on the last binding of each name that the template asks for and
on no other binding; a parameter that is missing is one of these names, last bound to
nothing or never.  Where no level of the template is malformed, these names are the
ones that building substitutes, level by level. -/
theorem topic_reads_last_bindings (op : Operation) (role : TopicRole)
    (series : List (String × Option String)) :
    (∀ series', (∀ name ∈ op.parameterNames, lastBinding? series name = lastBinding? series' name) →
      op.topic role (.ofList series) = op.topic role (.ofList series')) ∧
    (∀ operation name, op.topic role (.ofList series) = .error (.missingParameter operation name) →
      operation = op.name ∧ name ∈ op.parameterNames ∧ lastBinding? series name = none) ∧
    (op.IsWellFormed →
      (∃ slots, List.Forall₂ op.Treats (levels op.template) slots) ∧
        ∀ slots, List.Forall₂ op.Treats (levels op.template) slots →
          op.parameterNames = slots.reduceOption) := by
  refine ⟨fun series' hsame => ?_, fun operation name hmissing => ?_, fun hwell => ⟨?_, ?_⟩⟩
  · apply topic_congr
    intro name hname
    rw [TopicParams.get?_ofList, TopicParams.get?_ofList, hsame name hname]
  · rw [← TopicParams.get?_ofList]
    exact missing_of_topic hmissing
  · exact ⟨_, treats_levels hwell⟩
  · intro slots hslots
    have hunique : Relator.RightUnique op.Treats := fun _ _ _ => Treats.unique
    rw [List.right_unique_forall₂' hunique hslots (treats_levels hwell),
      parameterNames_eq_reduceOption]

def unitCopy : Operation :=
  ⟨"unit", "copy", "units/\x7bunit\x7d/\x7bpart\x7d/\x7bunit\x7d", .event⟩

/-- What is bound in between makes no difference, but a name that was last bound to
nothing is missing although it had a value before. -/
theorem last_unit_copied :
    let series := [("unit", some "1"), ("part", some "7"), ("site", none), ("unit", none),
      ("unit", some "2")]
    let series' := [("part", none), ("unit", some "2"), ("part", some "7")]
    let stale := [("unit", some "1"), ("part", some "7"), ("unit", none)]
    (∀ name ∈ unitCopy.parameterNames, lastBinding? series name = lastBinding? series' name) ∧
      unitCopy.topic .event (.ofList series) = .ok "units/2/7/2" ∧
      unitCopy.topic .event (.ofList series') = .ok "units/2/7/2" ∧
      unitCopy.topic .event (.ofList stale) = .error (.missingParameter "copy" "unit") ∧
      lastBinding? stale "unit" = none ∧
      unitCopy.IsWellFormed ∧ unitCopy.parameterNames = ["unit", "part", "unit"] := by
  intro series series' stale
  have hsame : ∀ name ∈ unitCopy.parameterNames,
      lastBinding? series name = lastBinding? series' name := by decide
  have hbuilt : unitCopy.topic .event (.ofList series) = .ok "units/2/7/2" := by rfl
  have hstale : unitCopy.topic .event (.ofList stale) =
      .error (.missingParameter "copy" "unit") := by rfl
  have hnamed : IsName "unit" ∧ IsName "part" :=
    ⟨⟨by decide, hasChar_isBrace_eq_false_iff.mp rfl⟩,
      ⟨by decide, hasChar_isBrace_eq_false_iff.mp rfl⟩⟩
  have hliteral : IsPlain "units" := hasChar_isBrace_eq_false_iff.mp rfl
  have hlevels : levels unitCopy.template =
      ["units", inBraces "unit", inBraces "part", inBraces "unit"] := by rfl
  have hslots : List.Forall₂ unitCopy.Treats (levels unitCopy.template)
      [none, some "unit", some "part", some "unit"] := by
    rw [hlevels]
    exact .cons (treats_of_isPlain hliteral)
      (.cons (treats_inBraces hnamed.1)
        (.cons (treats_inBraces hnamed.2) (.cons (treats_inBraces hnamed.1) .nil)))
  have hwell : unitCopy.IsWellFormed := by
    intro level hlevel
    rw [hlevels] at hlevel
    simp only [List.mem_cons, List.not_mem_nil, or_false] at hlevel
    rcases hlevel with rfl | rfl | rfl | rfl
    · exact .inl hliteral
    · exact .inr ⟨_, hnamed.1, rfl⟩
    · exact .inr ⟨_, hnamed.2, rfl⟩
    · exact .inr ⟨_, hnamed.1, rfl⟩
  obtain ⟨hbuild, -, hnames⟩ := topic_reads_last_bindings unitCopy .event series
  obtain ⟨-, hmissing, -⟩ := topic_reads_last_bindings unitCopy .event stale
  refine ⟨hsame, hbuilt, ?_, hstale, (hmissing _ _ hstale).2.2, hwell, ?_⟩
  · exact (hbuild series' hsame).symm.trans hbuilt
  · exact (hnames hwell).2 _ hslots

end Operation

end DeviceLink
