import DeviceLink.Proofs.Shape.Grammar
import DeviceLink.Proofs.Shape.Models

/-!
# Members that are not known make no difference

`Shape.prune` takes the unknown members out of a document, out of every object
that stands for a record, however deep.  Decoding does not see the difference
(`Shape.decode_prune`), so two documents that are the same up to unknown members
are decoded to the same value or fail with the same fault.  Together with the
grammar of the shapes this says for every model what its documents are
(`Model.decodes_what_grammar_accepts`).
-/

namespace DeviceLink

/-! ## Without unknown members -/

mutual

/-- The document without the unknown members of its records. -/
def Shape.prune : Shape → Document → Document
  | .record _ fields, d =>
    match d.view with
    | .object members => .object (members.filterMap fields.pruneAt)
    | .array items => .array (fields.pruneItems items)
    | _ => d
  | .list item, d =>
    match d.view with
    | .array items => .array (items.map item.prune)
    | _ => d
  | .dict value, d =>
    match d.view with
    | .object members => .object (members.map value.prune)
    | _ => d
  | _, d => d

/-- What is left of a member; nothing of an unknown one. -/
def Fields.pruneAt : Fields → String → Document → Option Document
  | .nil, _, _ => none
  | .cons name shape rest, key, d =>
    if key = name then some (shape.prune d) else rest.pruneAt key d

/-- A record that is written as an array has no unknown members of its own. -/
def Fields.pruneItems : Fields → List Document → List Document
  | .nil, items => items
  | .cons _ _ _, [] => []
  | .cons _ shape rest, d :: items => shape.prune d :: rest.pruneItems items

end

theorem Shape.isOmission_prune (shape : Shape) (d : Document) :
    shape.isOmission (shape.prune d) = shape.isOmission d := by
  cases shape with
  | record name fields =>
      rw [Shape.prune]
      cases hview : d.view <;> simp [Shape.isOmission, hview]
  | list item =>
      rw [Shape.prune]
      cases hview : d.view <;> simp [Shape.isOmission, hview]
  | dict value =>
      rw [Shape.prune]
      cases hview : d.view <;> simp [Shape.isOmission, hview]
  | text | flag | int32 | int64 | time | status | errorCode | free => rfl

theorem Fields.length_pruneItems (fields : Fields) (items : List Document) :
    (fields.pruneItems items).length = items.length := by
  induction items generalizing fields with
  | nil => cases fields <;> rfl
  | cons d rest ih =>
      cases fields with
      | nil => rw [Fields.pruneItems]
      | cons name shape others => exact congrArg (· + 1) (ih others)

theorem decodeEach_map_same {α : Type} {f : Document → Except Fault α}
    {g : Document → Document} (same : ∀ d, f (g d) = f d) (items : List Document) :
    decodeEach f (items.map g) = decodeEach f items := by
  induction items with
  | nil => rfl
  | cons d rest ih => rw [List.map_cons, decodeEach, decodeEach, same, ih]

/-- A walk may pass over a member that changes nothing. -/
theorem foldMembers_filterMap {α : Type} {f : α → String → Document → Except Fault α}
    {g : String → Document → Option Document}
    (same : ∀ a key d, (g key d).elim (.ok a) (f a key) = f a key d) (a : α)
    (members : List (String × Document)) :
    foldMembers f a (members.filterMap fun e => (g e.1 e.2).map (e.1, ·)) =
      foldMembers f a members := by
  induction members generalizing a with
  | nil => rfl
  | cons m rest ih =>
      obtain ⟨key, d⟩ := m
      have hstep := same a key d
      rw [List.filterMap_cons, foldMembers, ← hstep]
      cases g key d with
      | none => exact ih a
      | some d' =>
          show foldMembers f a ((key, d') :: _) = _
          rw [foldMembers, Option.elim_some]
          cases f a key d' with
          | error fault => rfl
          | ok b => exact ih b

mutual

/-- Decoding does not see unknown members. -/
theorem Shape.decode_prune : ∀ (shape : Shape) (d : Document),
    shape.decode (shape.prune d) = shape.decode d
  | .text, _ => rfl
  | .flag, _ => rfl
  | .int32, _ => rfl
  | .int64, _ => rfl
  | .time, _ => rfl
  | .status, _ => rfl
  | .errorCode, _ => rfl
  | .free, _ => rfl
  | .record name fields, d => by
      rw [Shape.prune, Shape.decode, Shape.decode]
      cases hview : d.view with
      | object members =>
          simp only [Document.view_object]
          exact foldMembers_filterMap (fun v key d => fields.assign_pruneAt key d v) _ _
      | array items =>
          simp only [Document.view_array]
          rw [fields.decodeItems_pruneItems, fields.length_pruneItems]
      | null | bool _ | word _ | double _ | text _ => simp only [hview]
  | .list item, d => by
      rw [Shape.prune, Shape.decode, Shape.decode]
      cases hview : d.view with
      | array items =>
          simp only [Document.view_array]
          exact decodeEach_map_same item.decode_prune items
      | null | bool _ | word _ | double _ | text _ | object _ => simp only [hview]
  | .dict value, d => by
      rw [Shape.prune, Shape.decode, Shape.decode]
      cases hview : d.view with
      | object members =>
          simp only [Document.view_object]
          exact members.tryMap_map_same value.decode_prune
      | null | bool _ | word _ | double _ | text _ | array _ => simp only [hview]

theorem Fields.assign_pruneAt : ∀ (fields : Fields) (key : String) (d : Document)
    (v : fields.Val),
    (fields.pruneAt key d).elim (.ok v) (fun d' => fields.assign key d' v) =
      fields.assign key d v
  | .nil, _, _, _ => rfl
  | .cons name shape rest, key, d, (current, others) => by
      rw [Fields.pruneAt, Fields.assign]
      by_cases hkey : key = name
      · rw [if_pos hkey, if_pos hkey, Option.elim_some, Fields.assign, if_pos hkey,
          shape.isOmission_prune, shape.decode_prune]
      · rw [if_neg hkey, if_neg hkey, ← rest.assign_pruneAt key d others]
        cases rest.pruneAt key d with
        | none => rfl
        | some d' =>
            rw [Option.elim_some, Option.elim_some, Fields.assign, if_neg hkey]

theorem Fields.decodeItems_pruneItems : ∀ (fields : Fields) (items : List Document),
    fields.decodeItems (fields.pruneItems items) = fields.decodeItems items
  | .nil, _ => by rw [Fields.pruneItems]
  | .cons _ _ _, [] => rfl
  | .cons _ shape rest, d :: items => by
      rw [Fields.pruneItems, Fields.decodeItems, Fields.decodeItems, shape.isOmission_prune,
        shape.decode_prune, rest.decodeItems_pruneItems]

end

theorem Fields.pruneAt_of_unknown {key : String} (d : Document) :
    ∀ {fields : Fields}, fields.shapeOf? key = none → fields.pruneAt key d = none
  | .nil, _ => rfl
  | .cons name shape rest, unknown => by
      rw [Fields.shapeOf?] at unknown
      rw [Fields.pruneAt]
      split at unknown
      · exact absurd unknown (by simp)
      · next hkey =>
          rw [if_neg hkey]
          exact Fields.pruneAt_of_unknown d unknown

/-- Adding an unknown member, or changing one, leaves the same document without
unknown members; so does removing one again. -/
theorem Shape.prune_insert {name key : String} {fields : Fields} {members : Dict Document}
    {value : Document} (unknown : fields.shapeOf? key = none) :
    (Shape.record name fields).prune (.object (members.insert key value)) =
      (Shape.record name fields).prune (.object members) := by
  have hgone (d : Document) : fields.pruneAt key d = none := Fields.pruneAt_of_unknown d unknown
  have hentries : ∀ entries : List (String × Document),
      ((Dict.insertEntry key value entries).filterMap fun e =>
          (fields.pruneAt e.1 e.2).map (e.1, ·)) =
        entries.filterMap fun e => (fields.pruneAt e.1 e.2).map (e.1, ·) := by
    intro entries
    induction entries with
    | nil => simp [Dict.insertEntry, hgone]
    | cons e rest ih =>
        rw [Dict.insertEntry]
        split
        · simp [List.filterMap_cons, hgone]
        · split
          · rw [List.filterMap_cons, List.filterMap_cons, ih]
          · next notBelow notAbove =>
              have hsame : key = e.1 :=
                String.le_antisymm (String.not_lt.mp notAbove) (String.not_lt.mp notBelow)
              simp [← hsame, hgone]
  rw [Shape.prune, Shape.prune, Document.view_object, Document.view_object]
  exact congrArg Document.object (Dict.ext (hentries members.entries))

/-- Whether a record is written as an object can still be seen. -/
theorem Shape.view_prune_record {name : String} {fields : Fields} {d : Document} :
    (∃ members, ((Shape.record name fields).prune d).view = .object members) ↔
      ∃ members, d.view = .object members := by
  rw [Shape.prune]
  cases hview : d.view <;> simp [hview]

/-! ## Payloads -/

namespace Request

variable {Address Body : Type} [Inhabited Address] [Payload Body] {d : Document}
  {members : Dict Document}

theorem ofDocument_of_object (object : d.view = .object members) :
    ofDocument Address Body d =
      ((((Payload.shape Body).decode d).mapError CodecError.shape).map Payload.ofVal).map
        fun body => ⟨default, body⟩ := by
  rw [ofDocument, Payload.ofDocument, Shape.ofDocument, object]

theorem ofDocument_of_not_object (other : ∀ members, d.view ≠ .object members) :
    ofDocument Address Body d = .error (.notAnObject d) := by
  rw [ofDocument, Payload.ofDocument, Shape.ofDocument]
  cases hview : d.view with
  | object members => exact absurd hview (other members)
  | null | bool _ | word _ | double _ | text _ | array _ => rfl

theorem ofDocument_eq_ok (object : d.view = .object members) :
    (∃ x, ofDocument Address Body d = .ok x) ↔ ∃ v, (Payload.shape Body).decode d = .ok v := by
  rw [ofDocument_of_object object]
  cases (Payload.shape Body).decode d with
  | ok v => exact ⟨fun _ => ⟨v, rfl⟩, fun _ => ⟨_, rfl⟩⟩
  | error fault => exact ⟨nofun, nofun⟩

theorem ofDocument_eq_error (object : d.view = .object members) {error : CodecError} :
    ofDocument Address Body d = .error error ↔
      ∃ fault, error = .shape fault ∧ (Payload.shape Body).decode d = .error fault := by
  rw [ofDocument_of_object object]
  cases (Payload.shape Body).decode d with
  | ok v => exact ⟨nofun, nofun⟩
  | error fault =>
      constructor
      · intro h
        exact ⟨fault, (Except.error.inj h).symm, rfl⟩
      · rintro ⟨fault', rfl, hsame⟩
        rw [Except.error.inj hsame]
        rfl

/-- Payloads that are the same without their unknown members are read alike. -/
theorem ofDocument_eq_of_prune_eq {d' : Document} (object : d.view = .object members)
    (same : (Payload.shape Body).prune d' = (Payload.shape Body).prune d) :
    ofDocument Address Body d' = ofDocument Address Body d := by
  have hpruned : ∃ members, ((Payload.shape Body).prune d).view = .object members :=
    Shape.view_prune_record.mpr ⟨members, object⟩
  rw [← same] at hpruned
  obtain ⟨members', object'⟩ := Shape.view_prune_record.mp hpruned
  have hdecode : (Payload.shape Body).decode d' = (Payload.shape Body).decode d := by
    rw [← (Payload.shape Body).decode_prune d', same, (Payload.shape Body).decode_prune d]
  rw [ofDocument_of_object object', ofDocument_of_object object, hdecode]

end Request

/-- A document is no object, or it is decoded exactly if every known member in it is
null or has the shape that is declared for the member; absent members do not
matter.  Otherwise the fault is the first one in reading order.  Documents that are
the same without their unknown members, at every level, are decoded alike. -/
theorem Model.decodes_what_grammar_accepts (m : Model) (d : Document) :
    ((∃ found, Request.ofDocument m.Address m.Body d = .error (.notAnObject found)) ↔
        ∀ members, d.view ≠ .object members) ∧
      ∀ members, d.view = .object members →
        ((∃ x, Request.ofDocument m.Address m.Body d = .ok x) ↔
          ∀ key value, (key, value) ∈ members.entries →
            ∀ shape, (Payload.fields m.Body).shapeOf? key = some shape →
              value.view = .null ∨ shape.Accepts value) ∧
        (∀ error, Request.ofDocument m.Address m.Body d = .error error ↔
          ∃ fault, error = .shape fault ∧
            (Payload.fields m.Body).IsFirstFault members fault) ∧
        ∀ d', (Payload.shape m.Body).prune d' = (Payload.shape m.Body).prune d →
          Request.ofDocument m.Address m.Body d' = Request.ofDocument m.Address m.Body d := by
  refine ⟨⟨?_, ?_⟩, fun members hobject => ⟨?_, ?_, ?_⟩⟩
  · rintro ⟨found, herror⟩ members hobject
    obtain ⟨fault, hshape, -⟩ := (Request.ofDocument_eq_error hobject).mp herror
    cases hshape
  · intro hother
    exact ⟨d, Request.ofDocument_of_not_object hother⟩
  · rw [Request.ofDocument_eq_ok hobject, Shape.decode_ok_iff, Payload.shape, Shape.Accepts]
    simp only [hobject, Fields.acceptsAt_iff_shapeOf?]
    simp
  · intro error
    rw [Request.ofDocument_eq_error hobject]
    refine exists_congr fun fault => and_congr_right fun _ => ?_
    rw [← faultOf_eq_some, Shape.faultOf_decode, ← Fields.head?_faults_eq_some, Payload.shape,
      Shape.faults, hobject]
  · intro d' hsame
    exact Request.ofDocument_eq_of_prune_eq hobject hsame

/-- A member that a model does not know may be added to a payload, changed in it or
taken out of it again. -/
theorem Model.ofDocument_insert_unknown (m : Model) (members : Dict Document) {key : String}
    (unknown : (Payload.fields m.Body).shapeOf? key = none) (value : Document) :
    Request.ofDocument m.Address m.Body (.object (members.insert key value)) =
      Request.ofDocument m.Address m.Body (.object members) :=
  Request.ofDocument_eq_of_prune_eq (Document.view_object members)
    (Shape.prune_insert unknown)

end DeviceLink
