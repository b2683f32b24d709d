import DeviceLink.Proofs.Shape.Faults

/-!
# The documents that a shape accepts

`Shape.Accepts` says which documents have a shape, without a word about how they
are read.  A document is accepted exactly if nothing in it is at fault
(`Shape.accepts_iff`), so it is exactly the accepted documents that are decoded.
Of an object that is not accepted, the fault that counts is the first one in the
first known member, by key, that is not (`Fields.IsFirstFault`).
-/

namespace DeviceLink

/-! ## The grammar -/

mutual

def Shape.Accepts : Shape → Document → Prop
  | .text, d => ∃ s, d.view = .text s
  | .flag, d => ∃ b, d.view = .bool b
  | .int32, d => ∃ n, d.view = .word n ∧ -0x80000000 ≤ n.val ∧ n.val < 0x80000000
  | .int64, d =>
    ∃ n, d.view = .word n ∧ -0x8000000000000000 ≤ n.val ∧ n.val < 0x8000000000000000
  | .time, d =>
    (∃ n, d.view = .word n ∧ n.val < 0x8000000000000000) ∨
      ∃ x, d.view = .double x ∧
        -0x8000000000000000 * (Double.grainsPerOne : Int) ≤ x.grains ∧
        x.grains < 0x8000000000000000 * (Double.grainsPerOne : Int)
  | .status, d | .errorCode, d =>
    (∃ s, d.view = .text s) ∨
      ∃ members key value, d.view = .object members ∧ members.entries = [(key, value)] ∧
        value.view = .null
  | .free, _ => True
  | .record _ fields, d =>
    (∃ members, d.view = .object members ∧ ∀ e ∈ members.entries, fields.AcceptsAt e.1 e.2) ∨
      ∃ items, d.view = .array items ∧ items.length ≤ fields.names.length ∧
        fields.AcceptsItems items
  | .list item, d => ∃ items, d.view = .array items ∧ ∀ x ∈ items, item.Accepts x
  | .dict value, d =>
    ∃ members, d.view = .object members ∧ ∀ e ∈ members.entries, value.Accepts e.2

/-- A known member is null or has its shape, an unknown one may be anything. -/
def Fields.AcceptsAt : Fields → String → Document → Prop
  | .nil, _, _ => True
  | .cons name shape rest, key, d =>
    if key = name then d.view = .null ∨ shape.Accepts d else rest.AcceptsAt key d

/-- The same for members that are written in the order they are declared. -/
def Fields.AcceptsItems : Fields → List Document → Prop
  | .nil, _ => True
  | .cons _ _ _, [] => True
  | .cons _ shape rest, d :: items =>
    (d.view = .null ∨ shape.Accepts d) ∧ rest.AcceptsItems items

end

/-! ## Accepted documents have no fault -/

theorem integerFaults_eq_nil {expected : Expectation} {low high : Int} {d : Document} :
    integerFaults expected low high d = [] ↔
      ∃ n, d.view = .word n ∧ low ≤ n.val ∧ n.val < high + 1 := by
  rw [integerFaults]
  cases d.view with
  | word n =>
      simp only [Int.lt_add_one_iff]
      simp
  | null | bool _ | double _ | text _ | array _ | object _ => simp

theorem nameFaults_eq_nil {d : Document} :
    nameFaults d = [] ↔ (∃ s, d.view = .text s) ∨
      ∃ members key value, d.view = .object members ∧ members.entries = [(key, value)] ∧
        value.view = .null := by
  rw [nameFaults]
  cases d.view with
  | object members =>
      cases hentries : members.entries with
      | nil => simp [hentries]
      | cons m rest =>
          obtain ⟨key, value⟩ := m
          cases rest with
          | nil =>
              have hsingle : (∃ key' value', members.entries = [(key', value')] ∧
                  value'.view = .null) ↔ value.view = .null := by
                rw [hentries]
                refine ⟨?_, fun hnull => ⟨key, value, rfl, hnull⟩⟩
                rintro ⟨key', value', hsame, hnull⟩
                cases hsame
                exact hnull
              simp only [hentries, reduceCtorEq, exists_const, false_or, Document.View.object.injEq]
              cases hvalue : value.view <;> simp_all
          | cons m' rest => simp [hentries]
  | null | bool _ | word _ | double _ | text _ | array _ => simp

theorem timeFaults_eq_nil {d : Document} :
    timeFaults d = [] ↔ Shape.Accepts .time d := by
  rw [timeFaults, Shape.Accepts]
  cases d.view with
  | word _ | double _ => simp
  | null | bool _ | text _ | array _ | object _ => simp

/-- A null is left out, or fits anyway. -/
theorem Shape.memberFaults_eq_nil {shape : Shape} {d : Document} :
    (if shape.isOmission d then [] else shape.faults d) = [] ↔
      d.view = .null ∨ shape.faults d = [] := by
  rw [Shape.isOmission]
  cases hview : d.view with
  | null =>
      refine ⟨fun _ => .inl rfl, fun _ => ?_⟩
      -- Only a free document keeps a null, and there nothing is at fault.
      cases shape <;> rfl
  | bool _ | word _ | double _ | text _ | array _ | object _ => simp

mutual

/-- A document has the shape exactly if nothing in it is at fault. -/
theorem Shape.accepts_iff : ∀ (shape : Shape) (d : Document),
    shape.Accepts d ↔ shape.faults d = []
  | .text, d => by
      rw [Shape.Accepts, Shape.faults, textFaults]
      cases d.view <;> simp
  | .flag, d => by
      rw [Shape.Accepts, Shape.faults, flagFaults]
      cases d.view <;> simp
  | .int32, d => by
      have hlow : Int32.minValue.toInt = -0x80000000 := rfl
      have hhigh : Int32.maxValue.toInt + 1 = 0x80000000 := rfl
      rw [Shape.Accepts, Shape.faults, integerFaults_eq_nil, hlow, hhigh]
  | .int64, d => by
      have hlow : Int64.minValue.toInt = -0x8000000000000000 := rfl
      have hhigh : Int64.maxValue.toInt + 1 = 0x8000000000000000 := rfl
      rw [Shape.Accepts, Shape.faults, integerFaults_eq_nil, hlow, hhigh]
  | .time, d => timeFaults_eq_nil.symm
  | .status, d => nameFaults_eq_nil.symm
  | .errorCode, d => nameFaults_eq_nil.symm
  | .free, _ => ⟨fun _ => rfl, fun _ => trivial⟩
  | .record name fields, d => by
      rw [Shape.Accepts, Shape.faults]
      cases d.view with
      | object members =>
          have hmembers : (∀ e ∈ members.entries, fields.AcceptsAt e.1 e.2) ↔
              ∀ e ∈ members.entries, fields.faultsAt e.1 e.2 = [] :=
            forall₂_congr fun e _ => fields.acceptsAt_iff e.1 e.2
          simpa [List.flatMap_eq_nil_iff] using hmembers
      | array items =>
          have hitems := fields.acceptsItems_iff items
          simp [List.append_eq_nil_iff, hitems, and_comm]
      | null | bool _ | word _ | double _ | text _ => simp
  | .list item, d => by
      rw [Shape.Accepts, Shape.faults]
      cases d.view with
      | array items =>
          have hitems : (∀ x ∈ items, item.Accepts x) ↔ ∀ x ∈ items, item.faults x = [] :=
            forall₂_congr fun x _ => item.accepts_iff x
          simpa [List.flatMap_eq_nil_iff] using hitems
      | null | bool _ | word _ | double _ | text _ | object _ => simp
  | .dict value, d => by
      rw [Shape.Accepts, Shape.faults]
      cases d.view with
      | object members =>
          have hmembers : (∀ e ∈ members.entries, value.Accepts e.2) ↔
              ∀ e ∈ members.entries, value.faults e.2 = [] :=
            forall₂_congr fun e _ => value.accepts_iff e.2
          simpa [List.flatMap_eq_nil_iff] using hmembers
      | null | bool _ | word _ | double _ | text _ | array _ => simp

theorem Fields.acceptsAt_iff : ∀ (fields : Fields) (key : String) (d : Document),
    fields.AcceptsAt key d ↔ fields.faultsAt key d = []
  | .nil, _, _ => ⟨fun _ => rfl, fun _ => trivial⟩
  | .cons name shape rest, key, d => by
      rw [Fields.AcceptsAt, Fields.faultsAt]
      split
      · rw [Shape.memberFaults_eq_nil, shape.accepts_iff d]
      · exact rest.acceptsAt_iff key d

theorem Fields.acceptsItems_iff : ∀ (fields : Fields) (items : List Document),
    fields.AcceptsItems items ↔ fields.faultsOfItems items = []
  | .nil, _ => by simp [Fields.AcceptsItems, Fields.faultsOfItems]
  | .cons _ _ _, [] => ⟨fun _ => rfl, fun _ => trivial⟩
  | .cons name shape rest, d :: items => by
      rw [Fields.AcceptsItems, Fields.faultsOfItems, List.append_eq_nil_iff,
        Shape.memberFaults_eq_nil, shape.accepts_iff d, rest.acceptsItems_iff items]

end

/-- It is exactly the documents of the shape that are decoded. -/
theorem Shape.decode_ok_iff (shape : Shape) (d : Document) :
    (∃ v, shape.decode d = .ok v) ↔ shape.Accepts d := by
  rw [shape.accepts_iff, ← faultOf_eq_none, shape.faultOf_decode, List.head?_eq_none_iff]

instance (shape : Shape) (d : Document) : Decidable (shape.Accepts d) :=
  decidable_of_iff _ (shape.accepts_iff d).symm

example : (Shape.record "" (.ofList [("a", .text), ("b", .int32)])).Accepts (.array [.null]) := by
  decide

/-! ## Members by name -/

namespace Fields

def shapeOf? : Fields → String → Option Shape
  | .nil, _ => none
  | .cons name shape rest, key => if key = name then some shape else rest.shapeOf? key

theorem acceptsAt_iff_shapeOf? {key : String} {d : Document} :
    ∀ {fields : Fields}, fields.AcceptsAt key d ↔
      ∀ shape, fields.shapeOf? key = some shape → d.view = .null ∨ shape.Accepts d
  | .nil => by simp [AcceptsAt, shapeOf?]
  | .cons name shape rest => by
      rw [AcceptsAt, shapeOf?]
      split
      · simp
      · exact acceptsAt_iff_shapeOf?

theorem head?_faultsAt_eq_some {key : String} {d : Document} {fault : Fault} :
    ∀ {fields : Fields}, (fields.faultsAt key d).head? = some fault ↔
      ∃ shape, fields.shapeOf? key = some shape ∧ d.view ≠ .null ∧
        (shape.faults d).head? = some fault
  | .nil => by simp [faultsAt, shapeOf?]
  | .cons name shape rest => by
      rw [faultsAt, shapeOf?]
      split
      · rw [Shape.isOmission]
        cases hview : d.view with
        | null => cases shape <;> simp [Shape.keepsNull, Shape.faults]
        | bool _ | word _ | double _ | text _ | array _ | object _ => simp
      · exact head?_faultsAt_eq_some

/-- The fault is the first one in the first member, by key, that is known and
neither null nor of the shape that is declared for it. -/
def IsFirstFault (fields : Fields) (members : Dict Document) (fault : Fault) : Prop :=
  ∃ before key d after shape, members.entries = before ++ (key, d) :: after ∧
    (∀ e ∈ before, fields.AcceptsAt e.1 e.2) ∧ fields.shapeOf? key = some shape ∧
    d.view ≠ .null ∧ ¬shape.Accepts d ∧ (shape.faults d).head? = some fault

theorem head?_faults_eq_some {fields : Fields} {members : Dict Document} {fault : Fault} :
    (members.entries.flatMap fun e => fields.faultsAt e.1 e.2).head? = some fault ↔
      fields.IsFirstFault members fault := by
  rw [List.head?_flatMap, List.findSome?_eq_some_iff]
  constructor
  · rintro ⟨before, ⟨key, d⟩, after, hsplit, hfault, hbefore⟩
    obtain ⟨shape, hshape, hnull, hfirst⟩ := head?_faultsAt_eq_some.mp hfault
    refine ⟨before, key, d, after, shape, hsplit, fun e he => ?_, hshape, hnull, ?_, hfirst⟩
    · have hnone := hbefore e he
      exact (fields.acceptsAt_iff e.1 e.2).mpr (List.head?_eq_none_iff.mp hnone)
    · intro haccepts
      rw [(shape.accepts_iff d).mp haccepts] at hfirst
      exact absurd hfirst (by simp)
  · rintro ⟨before, key, d, after, shape, hsplit, hbefore, hshape, hnull, -, hfirst⟩
    refine ⟨before, (key, d), after, hsplit, ?_, fun e he => ?_⟩
    · exact head?_faultsAt_eq_some.mpr ⟨shape, hshape, hnull, hfirst⟩
    · have hnone := (fields.acceptsAt_iff e.1 e.2).mp (hbefore e he)
      exact List.head?_eq_none_iff.mpr hnone

end Fields

end DeviceLink
