import DeviceLink.Proofs.Topic.Levels
import Mathlib.Data.List.Forall2

/-!
# How a template is filled

A level of a template without braces stands for itself; a name in braces stands
for the value of that parameter.  `Fills` says what a level becomes and `Refuses`
why it becomes nothing, both without the reader of templates and the checks.
Every level has exactly one of these fates (`fillLevel_eq_ok_iff`,
`fillLevel_eq_error_iff`), and of several levels that are refused the leftmost
decides (`fillLevels_eq_error_iff`).
-/

namespace DeviceLink

/-! ## Braces -/

/-- Having no brace. -/
def IsPlain (s : String) : Prop := ∀ c ∈ s.toList, c ≠ '\x7b' ∧ c ≠ '\x7d'

/-- Being a name that a placeholder can have. -/
structure IsName (name : String) : Prop where
  nonempty : name ≠ ""
  plain : IsPlain name

def inBraces (name : String) : String := "\x7b" ++ name ++ "\x7d"

theorem toList_inBraces (name : String) :
    (inBraces name).toList = '\x7b' :: (name.toList ++ ['\x7d']) := by
  simp [inBraces]

theorem hasChar_isBrace_eq_false_iff {s : String} : hasChar isBrace s = false ↔ IsPlain s := by
  unfold hasChar
  simp [IsPlain, isBrace]

theorem not_isPlain_inBraces (name : String) : ¬ IsPlain (inBraces name) := by
  intro hplain
  exact (hplain '\x7b' (by simp [toList_inBraces])).1 rfl

theorem inBraces_inj {name name' : String} (same : inBraces name = inBraces name') :
    name = name' := by
  have hchars := congrArg String.toList same
  rw [toList_inBraces, toList_inBraces] at hchars
  exact String.toList_inj.mp (List.append_cancel_right (List.cons.inj hchars).2)

/-- Only the outer braces are looked at. -/
theorem insideBraces?_eq_some_iff {s name : String} :
    insideBraces? s = some name ↔ s = inBraces name := by
  constructor
  · intro hinside
    unfold insideBraces? at hinside
    split at hinside
    · next rest hchars =>
        split at hinside
        · next hlast =>
            obtain rfl := Option.some.inj hinside
            have hrest : rest.dropLast ++ ['\x7d'] = rest :=
              List.dropLast_append_getLast? '\x7d' (Option.mem_def.mpr hlast)
            apply String.toList_inj.mp
            rw [hchars, toList_inBraces, String.toList_ofList, hrest]
        · exact absurd hinside (by simp)
    · exact absurd hinside (by simp)
  · rintro rfl
    unfold insideBraces?
    rw [toList_inBraces]
    simp

namespace Segment

variable {level : String}

theorem ofText?_of_isPlain (plain : IsPlain level) : ofText? level = some (.literal level) := by
  unfold ofText?
  rw [if_neg (by simp [hasChar_isBrace_eq_false_iff.mpr plain])]

theorem ofText?_inBraces {name : String} (named : IsName name) :
    ofText? (inBraces name) = some (.placeholder name) := by
  have hbrace : hasChar isBrace (inBraces name) = true := by
    rw [← Bool.not_eq_false]
    exact mt hasChar_isBrace_eq_false_iff.mp (not_isPlain_inBraces name)
  unfold ofText?
  rw [if_pos hbrace, insideBraces?_eq_some_iff.mpr rfl]
  simp [named.nonempty, hasChar_isBrace_eq_false_iff.mpr named.plain]

/-- Braces that do not enclose the whole level, or enclose no name, make it
unreadable. -/
theorem ofText?_eq_none_iff :
    ofText? level = none ↔ ¬ IsPlain level ∧ ∀ name, IsName name → level ≠ inBraces name := by
  constructor
  · intro hnone
    refine ⟨fun hplain => ?_, ?_⟩
    · exact absurd (hnone.symm.trans (ofText?_of_isPlain hplain)) (by simp)
    · rintro name hnamed rfl
      exact absurd (hnone.symm.trans (ofText?_inBraces hnamed)) (by simp)
  · rintro ⟨hbraced, hunnamed⟩
    unfold ofText?
    rw [if_pos (by simpa [← hasChar_isBrace_eq_false_iff] using hbraced)]
    split
    · next name hinside =>
        have hlevel := insideBraces?_eq_some_iff.mp hinside
        split
        · rfl
        · next hname =>
            simp only [Bool.or_eq_true, decide_eq_true_eq, not_or, Bool.not_eq_true,
              hasChar_isBrace_eq_false_iff] at hname
            exact absurd hlevel (hunnamed name ⟨hname.1, hname.2⟩)
    · rfl

end Segment

/-! ## One level -/

inductive Fills (params : TopicParams) : String → String → Prop
  | literal {s : String} (plain : IsPlain s) : Fills params s s
  | placeholder {name value : String} (named : IsName name)
      (bound : params.get? name = some value) (valid : IsLevelValue value) :
      Fills params (inBraces name) value

theorem fills_inBraces_iff {params : TopicParams} {name s : String} :
    Fills params (inBraces name) s ↔
      IsName name ∧ params.get? name = some s ∧ IsLevelValue s := by
  constructor
  · intro hfills
    generalize hlevel : inBraces name = level at hfills
    cases hfills with
    | literal hplain => exact absurd (hlevel ▸ hplain) (not_isPlain_inBraces name)
    | placeholder hnamed hbound hvalid =>
        obtain rfl := inBraces_inj hlevel
        exact ⟨hnamed, hbound, hvalid⟩
  · rintro ⟨hnamed, hbound, hvalid⟩
    exact .placeholder hnamed hbound hvalid

namespace Operation

inductive Refuses (op : Operation) (params : TopicParams) : String → TopicError → Prop
  | malformed {level : String} (braced : ¬ IsPlain level)
      (unnamed : ∀ name, IsName name → level ≠ inBraces name) :
      Refuses op params level (.malformedTemplate op.template)
  | missing {name : String} (named : IsName name) (unbound : params.get? name = none) :
      Refuses op params (inBraces name) (.missingParameter op.name name)
  | invalid {name value : String} {fault : ParameterFault} (named : IsName name)
      (bound : params.get? name = some value) (faulty : fault.IsFirst value) :
      Refuses op params (inBraces name) (.invalidParameter name value fault)

variable {op : Operation} {params : TopicParams} {level s : String} {e : TopicError}

theorem fillLevel_of_fills (fills : Fills params level s) : op.fillLevel params level = .ok s := by
  unfold fillLevel
  cases fills with
  | literal hplain => rw [Segment.ofText?_of_isPlain hplain]
  | placeholder hnamed hbound hvalid =>
      simp only [Segment.ofText?_inBraces hnamed, hbound, validateParameter_eq_ok_iff.mpr hvalid]

theorem fillLevel_of_refuses (refuses : op.Refuses params level e) :
    op.fillLevel params level = .error e := by
  unfold fillLevel
  cases refuses with
  | malformed hbraced hunnamed =>
      rw [Segment.ofText?_eq_none_iff.mpr ⟨hbraced, hunnamed⟩]
  | missing hnamed hunbound => simp only [Segment.ofText?_inBraces hnamed, hunbound]
  | @invalid name value fault hnamed hbound hfaulty =>
      have hinvalid : validateParameter name value = .error (.invalidParameter name value fault) :=
        validateParameter_eq_error_iff.mpr ⟨fault, hfaulty, rfl⟩
      simp only [Segment.ofText?_inBraces hnamed, hbound, hinvalid]

/-- Every level becomes something or is refused. -/
theorem fills_or_refuses (op : Operation) (params : TopicParams) (level : String) :
    (∃ s, Fills params level s) ∨ ∃ e, op.Refuses params level e := by
  by_cases hplain : IsPlain level
  · exact Or.inl ⟨level, .literal hplain⟩
  by_cases hwritten : ∃ name, IsName name ∧ level = inBraces name
  · obtain ⟨name, hnamed, rfl⟩ := hwritten
    cases hbound : params.get? name with
    | none => exact Or.inr ⟨_, .missing hnamed hbound⟩
    | some value =>
        cases hfault : parameterFault? value with
        | none =>
            have hvalid := parameterFault?_eq_none_iff.mp hfault
            exact Or.inl ⟨value, .placeholder hnamed hbound hvalid⟩
        | some fault =>
            have hfirst := parameterFault?_eq_some_iff.mp hfault
            exact Or.inr ⟨_, .invalid hnamed hbound hfirst⟩
  · refine Or.inr ⟨_, .malformed hplain ?_⟩
    exact fun name hnamed hlevel => hwritten ⟨name, hnamed, hlevel⟩

theorem fillLevel_eq_ok_iff : op.fillLevel params level = .ok s ↔ Fills params level s := by
  refine ⟨fun hfilled => ?_, fillLevel_of_fills⟩
  rcases op.fills_or_refuses params level with ⟨s', hfills⟩ | ⟨e, hrefuses⟩
  · obtain rfl := Except.ok.inj (hfilled.symm.trans (fillLevel_of_fills hfills))
    exact hfills
  · exact absurd (hfilled.symm.trans (fillLevel_of_refuses hrefuses)) (by simp)

theorem fillLevel_eq_error_iff :
    op.fillLevel params level = .error e ↔ op.Refuses params level e := by
  refine ⟨fun hrefused => ?_, fillLevel_of_refuses⟩
  rcases op.fills_or_refuses params level with ⟨s, hfills⟩ | ⟨e', hrefuses⟩
  · exact absurd (hrefused.symm.trans (fillLevel_of_fills hfills)) (by simp)
  · obtain rfl := Except.error.inj (hrefused.symm.trans (fillLevel_of_refuses hrefuses))
    exact hrefuses

/-! ## All levels -/

def FirstRefused (op : Operation) (params : TopicParams) (parts : List String) (e : TopicError) :
    Prop :=
  ∃ before level after, parts = before ++ level :: after ∧
    (∀ earlier ∈ before, ∃ s, Fills params earlier s) ∧ op.Refuses params level e

theorem firstRefused_cons_of_fills {rest : List String} (fills : Fills params level s) :
    op.FirstRefused params (level :: rest) e ↔ op.FirstRefused params rest e := by
  constructor
  · rintro ⟨before, other, after, hparts, hbefore, hrefuses⟩
    cases before with
    | nil =>
        obtain ⟨rfl, rfl⟩ := List.cons.inj hparts
        have hboth := (fillLevel_of_fills fills).symm.trans (fillLevel_of_refuses hrefuses)
        exact absurd hboth (by simp)
    | cons first before =>
        obtain ⟨rfl, rfl⟩ := List.cons.inj hparts
        refine ⟨before, other, after, rfl, fun l hl => ?_, hrefuses⟩
        exact hbefore l (List.mem_cons_of_mem _ hl)
  · rintro ⟨before, other, after, rfl, hbefore, hrefuses⟩
    refine ⟨level :: before, other, after, rfl, fun l hl => ?_, hrefuses⟩
    rcases List.mem_cons.mp hl with rfl | hl
    · exact ⟨s, fills⟩
    · exact hbefore l hl

theorem firstRefused_cons_of_refuses {rest : List String} {e' : TopicError}
    (refuses : op.Refuses params level e) :
    op.FirstRefused params (level :: rest) e' ↔ e' = e := by
  have herror := @fillLevel_of_refuses op params level
  constructor
  · rintro ⟨before, other, after, hparts, hbefore, hrefuses⟩
    cases before with
    | nil =>
        obtain ⟨rfl, rfl⟩ := List.cons.inj hparts
        exact Except.error.inj ((herror hrefuses).symm.trans (herror refuses))
    | cons first before =>
        obtain ⟨rfl, rfl⟩ := List.cons.inj hparts
        obtain ⟨s, hfills⟩ := hbefore level List.mem_cons_self
        exact absurd ((fillLevel_of_fills hfills).symm.trans (herror refuses)) (by simp)
  · rintro rfl
    exact ⟨[], level, rest, rfl, by simp, refuses⟩

theorem exists_level_of_mem {parts filled : List String}
    (fills : List.Forall₂ (Fills params) parts filled) (listed : s ∈ filled) :
    ∃ level ∈ parts, Fills params level s := by
  obtain ⟨i, hi, rfl⟩ := List.mem_iff_getElem.mp listed
  have hparts : i < parts.length := fills.length_eq ▸ hi
  exact ⟨parts[i], List.getElem_mem hparts, fills.get hparts hi⟩

theorem fillLevels_eq_ok_iff {parts filled : List String} :
    op.fillLevels params parts = .ok filled ↔ List.Forall₂ (Fills params) parts filled := by
  induction parts generalizing filled with
  | nil => simp [fillLevels, eq_comm]
  | cons level rest ih =>
      constructor
      · intro h
        obtain ⟨s, more, hlevel, hrest, rfl⟩ := fillLevels_cons_ok h
        exact .cons (fillLevel_eq_ok_iff.mp hlevel) (ih.mp hrest)
      · rintro (_ | ⟨hlevel, hrest⟩)
        rw [fillLevels, fillLevel_of_fills hlevel, ih.mpr hrest]

theorem fillLevels_eq_error_iff {parts : List String} :
    op.fillLevels params parts = .error e ↔ op.FirstRefused params parts e := by
  induction parts with
  | nil => simp [fillLevels, FirstRefused]
  | cons level rest ih =>
      rw [fillLevels]
      rcases op.fills_or_refuses params level with ⟨s, hfills⟩ | ⟨e', hrefuses⟩
      · rw [fillLevel_of_fills hfills, firstRefused_cons_of_fills hfills, ← ih]
        cases op.fillLevels params rest <;> simp
      · rw [fillLevel_of_refuses hrefuses, firstRefused_cons_of_refuses hrefuses]
        simp [eq_comm]

end Operation

end DeviceLink
