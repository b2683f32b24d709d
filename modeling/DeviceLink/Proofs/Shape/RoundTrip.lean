import DeviceLink.Proofs.Document.Dict
import DeviceLink.Shape.Payload

/-!
# What a document says is what it was encoded from

The document of a value has its shape: an object with the members that are
present and no others, at every level (`Shape.Describes`).  Decoding it gives the
value back, because a record is read by putting each member into its own place,
whatever the order: after some members the value read so far is the encoded one
with these members only (`Fields.restrict`).
-/

namespace DeviceLink

/-! ## Shapes that can be read back -/

mutual

/-- No record of the shape has two members of one name. -/
def Shape.wellFormed : Shape → Bool
  | .record _ fields => fields.wellFormed
  | .list item => item.wellFormed
  | .dict value => value.wellFormed
  | _ => true

def Fields.wellFormed : Fields → Bool
  | .nil => true
  | .cons name shape rest =>
    !rest.names.contains name && shape.wellFormed && rest.wellFormed

end

theorem Fields.wellFormed_cons {name : String} {shape : Shape} {rest : Fields} :
    (Fields.cons name shape rest).wellFormed = true ↔
      name ∉ rest.names ∧ shape.wellFormed = true ∧ rest.wellFormed = true := by
  simp [Fields.wellFormed, and_assoc]

/-! ## What the document of a value looks like -/

def Fields.present : (fields : Fields) → fields.Val → List String
  | .nil, _ => []
  | .cons name _ rest, (v, others) =>
    if v.isSome then name :: rest.present others else rest.present others

mutual

/-- The document holds the value in the way of its shape; a record is an object
with exactly the members that are present. -/
def Shape.Describes : (shape : Shape) → shape.Val → Document → Prop
  | .text, s, d => d = .text s
  | .flag, b, d => d = .bool b
  | .int32, n, d => ∃ w : Word, d = .word w ∧ w.val = n.toInt
  | .int64, n, d => ∃ w : Word, d = .word w ∧ w.val = n.toInt
  | .time, t, d => ∃ w : Word, d = .word w ∧ w.val = t.seconds.toInt
  | .status, s, d => d = .text s.name
  | .errorCode, c, d => d = .text c.name
  | .free, x, d => d = x
  | .record _ fields, v, d => ∃ members : Dict Document,
      d = .object members ∧ members.keys.Perm (fields.present v) ∧ fields.Describes v members
  | .list item, xs, d => ∃ items, d = .array items ∧ List.Forall₂ item.Describes xs items
  | .dict value, xs, d => ∃ members : Dict Document,
      d = .object members ∧
        List.Forall₂ (fun x m => x.1 = m.1 ∧ value.Describes x.2 m.2) xs.entries members.entries

/-- The members hold the values that are present. -/
def Fields.Describes : (fields : Fields) → fields.Val → Dict Document → Prop
  | .nil, _, _ => True
  | .cons name shape rest, (v, others), members =>
    (∀ x, v = some x → ∃ d, (name, d) ∈ members.entries ∧ shape.Describes x d) ∧
      rest.Describes others members

end

theorem Fields.keys_encodeMembers :
    ∀ (fields : Fields) (v : fields.Val), (fields.encodeMembers v).map (·.1) = fields.present v
  | .nil, _ => rfl
  | .cons name shape rest, (none, others) => rest.keys_encodeMembers others
  | .cons name shape rest, (some v, others) => by
      rw [Fields.encodeMembers, List.map_cons, rest.keys_encodeMembers others]
      rfl

theorem Fields.present_sublist :
    ∀ (fields : Fields) (v : fields.Val), (fields.present v).Sublist fields.names
  | .nil, _ => List.Sublist.refl _
  | .cons name _ rest, (none, others) => (rest.present_sublist others).cons name
  | .cons name _ rest, (some _, others) => (rest.present_sublist others).cons_cons name

theorem Fields.nodup_names : ∀ {fields : Fields}, fields.wellFormed = true → fields.names.Nodup
  | .nil, _ => List.nodup_nil
  | .cons name shape rest, wf => by
      obtain ⟨fresh, -, wf⟩ := Fields.wellFormed_cons.mp wf
      exact List.nodup_cons.mpr ⟨fresh, nodup_names wf⟩

theorem Fields.members_perm {fields : Fields} (wf : fields.wellFormed = true) (v : fields.Val) :
    (Dict.ofList (fields.encodeMembers v)).entries.Perm (fields.encodeMembers v) := by
  apply Dict.entries_ofList_perm
  rw [fields.keys_encodeMembers v]
  exact (fields.present_sublist v).nodup (Fields.nodup_names wf)

mutual

theorem Shape.describes_encode : ∀ (shape : Shape), shape.wellFormed = true →
    ∀ v : shape.Val, shape.Describes v (shape.encode v)
  | .text, _, _ => rfl
  | .flag, _, _ => rfl
  | .int32, _, n => ⟨Word.ofInt32 n, rfl, rfl⟩
  | .int64, _, n => ⟨Word.ofInt64 n, rfl, rfl⟩
  | .time, _, t => ⟨Word.ofInt64 t.seconds, rfl, rfl⟩
  | .status, _, _ => rfl
  | .errorCode, _, _ => rfl
  | .free, _, _ => rfl
  | .record name fields, wf, v => by
      have hperm := Fields.members_perm wf v
      refine ⟨Dict.ofList (fields.encodeMembers v), rfl, ?_, ?_⟩
      · rw [← fields.keys_encodeMembers v]
        exact hperm.map (·.1)
      · apply Fields.describes_of_subset wf
        intro e he
        exact hperm.mem_iff.mpr he
  | .list item, wf, xs => by
      refine ⟨List.map item.encode xs, rfl, ?_⟩
      apply List.forall₂_map_right_iff.mpr
      apply List.forall₂_same.mpr
      intro x _
      exact item.describes_encode wf x
  | .dict value, wf, xs => by
      refine ⟨Dict.map value.encode xs, rfl, ?_⟩
      apply List.forall₂_map_right_iff.mpr
      apply List.forall₂_same.mpr
      intro e _
      exact ⟨rfl, value.describes_encode wf e.2⟩

theorem Fields.describes_of_subset : ∀ {fields : Fields}, fields.wellFormed = true →
    ∀ {v : fields.Val} {members : Dict Document},
      fields.encodeMembers v ⊆ members.entries → fields.Describes v members
  | .nil, _, _, _, _ => trivial
  | .cons name shape rest, wf, (none, others), members, sub => by
      obtain ⟨-, -, wf⟩ := Fields.wellFormed_cons.mp wf
      refine ⟨?_, Fields.describes_of_subset wf sub⟩
      rintro x ⟨⟩
  | .cons name shape rest, wf, (some v, others), members, sub => by
      obtain ⟨-, wfShape, wf⟩ := Fields.wellFormed_cons.mp wf
      obtain ⟨hhead, htail⟩ := List.cons_subset.mp sub
      refine ⟨?_, Fields.describes_of_subset wf htail⟩
      rintro x ⟨⟩
      exact ⟨shape.encode v, hhead, shape.describes_encode wfShape v⟩

end

/-! ## Reading it back -/

def Fields.restrict (named : String → Bool) : (fields : Fields) → fields.Val → fields.Val
  | .nil, v => v
  | .cons name _ rest, (v, others) =>
    (if named name then v else none, rest.restrict named others)

theorem Fields.restrict_none :
    ∀ (fields : Fields) (v : fields.Val), fields.restrict (fun _ => false) v = fields.absent
  | .nil, _ => rfl
  | .cons name shape rest, (v, others) => by
      show ((none, rest.restrict _ others) : Option shape.Val × rest.Val) = (none, rest.absent)
      rw [rest.restrict_none others]

theorem Fields.restrict_of_present {named : String → Bool} :
    ∀ {fields : Fields} {v : fields.Val}, (∀ name ∈ fields.present v, named name = true) →
      fields.restrict named v = v
  | .nil, _, _ => rfl
  | .cons name shape rest, (none, others), all => by
      have hrest : rest.restrict named others = others := Fields.restrict_of_present all
      show ((if named name then none else none, _) : Option shape.Val × rest.Val) = _
      rw [hrest, ite_self]
  | .cons name shape rest, (some v, others), all => by
      obtain ⟨hname, hothers⟩ := List.forall_mem_cons.mp all
      have hrest : rest.restrict named others = others := Fields.restrict_of_present hothers
      show ((if named name then some v else none, _) : Option shape.Val × rest.Val) = _
      rw [hrest, if_pos hname]

/-- A name that no member bears makes no difference. -/
theorem Fields.restrict_fresh {key : String} :
    ∀ (fields : Fields) (named : String → Bool) (v : fields.Val), key ∉ fields.names →
      fields.restrict (fun name => named name || name == key) v = fields.restrict named v
  | .nil, _, _, _ => rfl
  | .cons name shape rest, named, (v, others), fresh => by
      rw [Fields.names, List.mem_cons, not_or] at fresh
      have hname : (name == key) = false := by simpa using Ne.symm fresh.1
      have hrest := rest.restrict_fresh named others fresh.2
      show ((if named name || name == key then v else none, _) : Option shape.Val × rest.Val) = _
      rw [hrest, hname, Bool.or_false]
      rfl

theorem JobStatus.ofName_name (s : JobStatus) : JobStatus.ofName s.name = s := by
  cases s <;> rfl

theorem RejectedErrorCode.ofName_name (c : RejectedErrorCode) :
    RejectedErrorCode.ofName c.name = c := by
  cases c <;> rfl

theorem decodeInteger_word (expected : Expectation) {low high : Int} (w : Word)
    (lower : low ≤ w.val) (upper : w.val ≤ high) :
    decodeInteger expected low high (.word w) = .ok w.val := by
  simp [decodeInteger, lower, upper]

theorem decodeTime_ofInt64 (n : Int64) : decodeTime (.word (Word.ofInt64 n)) = .ok ⟨n⟩ := by
  have hval : (Word.ofInt64 n).val = n.toInt := rfl
  have hlt : (Word.ofInt64 n).val < 0x8000000000000000 := by
    rw [hval]
    exact n.toInt_lt
  have hread : Timestamp.ofNumber? (.word (Word.ofInt64 n)) = some ⟨n⟩ := by
    rw [Timestamp.ofNumber?, if_pos hlt, hval, n.ofInt_toInt]
  simp [decodeTime, hread]

theorem decodeName_text (s : String) : decodeName (.text s) = .ok s := by
  simp [decodeName]

/-- A member that is present is never taken for one that is left out. -/
theorem Shape.isOmission_encode (shape : Shape) (v : shape.Val) :
    shape.isOmission (shape.encode v) = false := by
  cases shape with
  | free =>
      rw [Shape.isOmission]
      split <;> rfl
  | _ => rfl

theorem decodeEach_map {α : Type} {f : α → Document} {g : Document → Except Fault α}
    (inverse : ∀ x, g (f x) = .ok x) (xs : List α) : decodeEach g (xs.map f) = .ok xs := by
  induction xs with
  | nil => rfl
  | cons x rest ih => simp only [List.map_cons, decodeEach, inverse x, ih]

theorem Fields.mem_names_of_mem_encodeMembers {fields : Fields} {v : fields.Val} {key : String}
    {d : Document} (h : (key, d) ∈ fields.encodeMembers v) : key ∈ fields.names := by
  apply (fields.present_sublist v).subset
  rw [← fields.keys_encodeMembers v]
  exact List.mem_map_of_mem h

/-- A member that stands further back passes the first one by. -/
theorem Fields.assign_restrict_other {name key : String} {shape : Shape} {rest : Fields}
    {v : Option shape.Val} {others : rest.Val} {named : String → Bool} {d : Document}
    (hkey : key ≠ name)
    (hrest : rest.assign key d (rest.restrict named others) =
      .ok (rest.restrict (fun name => named name || name == key) others)) :
    (Fields.cons name shape rest).assign key d
        ((Fields.cons name shape rest).restrict named (v, others)) =
      .ok ((Fields.cons name shape rest).restrict (fun name => named name || name == key)
        (v, others)) := by
  have hname : (name == key) = false := by simpa using Ne.symm hkey
  rw [Fields.restrict, Fields.assign, if_neg hkey, hrest, Fields.restrict, hname, Bool.or_false]
  rfl

/-- Members that are put in one after the other, in any order. -/
theorem Fields.foldMembers_restrict {fields : Fields} {v : fields.Val}
    (step : ∀ (named : String → Bool) (key : String) (d : Document),
      (key, d) ∈ fields.encodeMembers v →
        fields.assign key d (fields.restrict named v) =
          .ok (fields.restrict (fun name => named name || name == key) v))
    (named : String → Bool) (members : List (String × Document))
    (sub : members ⊆ fields.encodeMembers v) :
    foldMembers (fun v key d => fields.assign key d v) (fields.restrict named v) members =
      .ok (fields.restrict (fun name => named name || (members.map (·.1)).contains name) v) := by
  induction members generalizing named with
  | nil => simp [foldMembers]
  | cons m rest ih =>
      obtain ⟨key, d⟩ := m
      obtain ⟨hm, hrest⟩ := List.cons_subset.mp sub
      rw [foldMembers, step named key d hm]
      show foldMembers _ _ rest = _
      rw [ih _ hrest]
      simp only [List.map_cons, List.contains_cons, Bool.or_assoc]

mutual

theorem Shape.decode_encode : ∀ (shape : Shape), shape.wellFormed = true →
    ∀ v : shape.Val, shape.decode (shape.encode v) = .ok v
  | .text, _, _ => rfl
  | .flag, _, _ => rfl
  | .int32, _, n => by
      have h := decodeInteger_word .int32 (Word.ofInt32 n) n.minValue_le_toInt n.toInt_le
      rw [Shape.decode, Shape.encode, h]
      exact congrArg Except.ok n.ofInt_toInt
  | .int64, _, n => by
      have h := decodeInteger_word .int64 (Word.ofInt64 n) n.minValue_le_toInt n.toInt_le
      rw [Shape.decode, Shape.encode, h]
      exact congrArg Except.ok n.ofInt_toInt
  | .time, _, t => decodeTime_ofInt64 t.seconds
  | .status, _, s => by
      rw [Shape.decode, Shape.encode, decodeName_text]
      exact congrArg Except.ok s.ofName_name
  | .errorCode, _, c => by
      rw [Shape.decode, Shape.encode, decodeName_text]
      exact congrArg Except.ok c.ofName_name
  | .free, _, _ => rfl
  | .record name fields, wf, v => by
      have hperm := Fields.members_perm wf v
      -- The members are visited by key, not as they are declared.
      have hfold := fields.foldMembers_restrict (fun named _ _ => Fields.assign_restrict wf named)
        (fun _ => false) (Dict.ofList (fields.encodeMembers v)).entries hperm.subset
      have hall : fields.restrict (fun name =>
          false || ((Dict.ofList (fields.encodeMembers v)).entries.map (·.1)).contains name) v = v := by
        apply Fields.restrict_of_present
        intro name hname
        rw [← fields.keys_encodeMembers v] at hname
        simpa using (hperm.map (·.1)).mem_iff.mpr hname
      rw [fields.restrict_none v, hall] at hfold
      rw [Shape.decode, Shape.encode, Document.ofMembers, Document.view_object]
      exact hfold
  | .list item, wf, xs => by
      rw [Shape.decode, Shape.encode, Document.view_array]
      exact decodeEach_map (item.decode_encode wf) xs
  | .dict value, wf, xs => by
      rw [Shape.decode, Shape.encode, Document.view_object]
      exact xs.tryMap_map fun e _ => value.decode_encode wf e.2

theorem Fields.assign_restrict : ∀ {fields : Fields}, fields.wellFormed = true →
    ∀ {v : fields.Val} (named : String → Bool) {key : String} {d : Document},
      (key, d) ∈ fields.encodeMembers v →
        fields.assign key d (fields.restrict named v) =
          .ok (fields.restrict (fun name => named name || name == key) v)
  | .nil, _, _, _, _, _, h => nomatch h
  | .cons name shape rest, wf, (none, others), named, key, d, h => by
      obtain ⟨fresh, -, wf⟩ := Fields.wellFormed_cons.mp wf
      have hkey : key ≠ name := fun e => fresh (e ▸ Fields.mem_names_of_mem_encodeMembers h)
      exact Fields.assign_restrict_other hkey (Fields.assign_restrict wf named h)
  | .cons name shape rest, wf, (some v, others), named, key, d, h => by
      obtain ⟨fresh, wfShape, wf⟩ := Fields.wellFormed_cons.mp wf
      rcases List.mem_cons.mp h with heq | h
      · obtain ⟨rfl, rfl⟩ := Prod.mk.inj heq
        have hrest := rest.restrict_fresh named others fresh
        rw [Fields.restrict, Fields.assign, if_pos rfl, shape.isOmission_encode v,
          shape.decode_encode wfShape v, Fields.restrict, hrest, beq_self_eq_true, Bool.or_true]
        rfl
      · have hkey : key ≠ name := fun e => fresh (e ▸ Fields.mem_names_of_mem_encodeMembers h)
        exact Fields.assign_restrict_other hkey (Fields.assign_restrict wf named h)

end

/-! ## Payloads -/

namespace Payload

variable {α : Type} [Payload α]

theorem describes_toDocument (wf : (shape α).wellFormed = true) (x : α) :
    (shape α).Describes (toVal x) (toDocument x) :=
  (shape α).describes_encode wf (toVal x)

theorem ofDocument_toDocument (wf : (shape α).wellFormed = true) (x : α) :
    ofDocument α (toDocument x) = .ok x := by
  have hdecode : (shape α).decode (toDocument x) = .ok (toVal x) :=
    (shape α).decode_encode wf (toVal x)
  have hobject : ∃ members, (toDocument x).view = .object members := ⟨_, Document.view_object _⟩
  obtain ⟨members, hview⟩ := hobject
  have hshape : (shape α).ofDocument (toDocument x) = .ok (toVal x) := by
    rw [Shape.ofDocument, hview, hdecode]
    rfl
  rw [ofDocument, hshape]
  exact congrArg Except.ok (ofVal_toVal x)

theorem ofBytes_of_read (wf : (shape α).wellFormed = true) {x : α} {bytes : ByteArray}
    (read : Document.ofPayload? bytes = some (toDocument x)) : ofBytes α bytes = .ok x := by
  have hdocument := ofDocument_toDocument wf x
  rw [ofBytes, Shape.ofBytes, read]
  exact hdocument

end Payload

end DeviceLink
