import DeviceLink.Proofs.Shape.Replacement
import DeviceLink.Proofs.Shape.Tolerance
import Mathlib.Logic.Relation

/-!
# Records within payloads

A record that stands within a payload may be written as an array.  It is then read as
the object that gives its items their declared names, wherever it stands and however
many records are written so (`Model.items_read_by_declared_names`).
-/

namespace DeviceLink

namespace Shape

variable {name : String} {fields : Fields}

/-! ## A record that is written as an array -/

theorem decode_array_iff (wf : fields.wellFormed = true) {items : List Document}
    {v : fields.Val} :
    (Shape.record name fields).decode (.array items) = .ok v ↔
      items.length ≤ fields.names.length ∧
        fields.Reads (fun key => (fields.names.zip items).lookup key) v := by
  have array := Document.view_array items
  rw [decode_record_iff wf, Fields.given?_of_array array, Fields.isWritten_iff_of_array array]

theorem decode_ofMembers_zip_iff (wf : fields.wellFormed = true) {items : List Document}
    {v : fields.Val} :
    (Shape.record name fields).decode (.ofMembers (fields.names.zip items)) = .ok v ↔
      fields.Reads (fun key => (fields.names.zip items).lookup key) v := by
  have hdifferent : ((fields.names.zip items).map (·.1)).Nodup := by
    rw [List.zip_eq_zip_take_min, List.map_fst_zip (by simp)]
    exact (List.take_sublist _ _).nodup (Fields.nodup_names wf)
  have object := Document.view_object (Dict.ofList (fields.names.zip items))
  have hgiven : ∀ key, (Dict.ofList (fields.names.zip items)).entries.lookup key =
      (fields.names.zip items).lookup key := Dict.get?_ofList hdifferent
  rw [Document.ofMembers, decode_record_iff wf, Fields.given?_of_object object, funext hgiven,
    and_iff_right (Fields.isWritten_of_object object)]

theorem array_readsLike (wf : fields.wellFormed = true) (items : List Document) :
    (Shape.record name fields).ReadsLike (items.length ≤ fields.names.length) (.array items)
      (.ofMembers (fields.names.zip items)) := fun _ =>
  (decode_array_iff wf).trans (and_congr_right fun _ => (decode_ofMembers_zip_iff wf).symm)

end Shape

/-! ## Payloads -/

theorem Request.ofDocument_eq_ok_iff {Address Body : Type} [Inhabited Address] [Payload Body]
    {d : Document} {members : Dict Document} (object : d.view = .object members)
    {x : Request Address Body} :
    ofDocument Address Body d = .ok x ↔
      ∃ v, (Payload.shape Body).decode d = .ok v ∧ ⟨default, Payload.ofVal v⟩ = x := by
  rw [ofDocument_of_object object]
  cases (Payload.shape Body).decode d <;> simp [Except.mapError, Except.map]

namespace Model

/-- In a payload, one record that is written as an array, without surplus items, is
written as an object instead. -/
inductive NamesItems (m : Model) : Document → Document → Prop
  | record {d : Document} {members : Dict Document} {path : List PathStep} {name : String}
      {fields : Fields} {items : List Document} (object : d.view = .object members)
      (declared : (Payload.shape m.Body).at? path = some (.record name fields))
      (written : (Payload.shape m.Body).valueAt? d path = some (.array items))
      (fits : items.length ≤ fields.names.length) :
      NamesItems m d
        ((Payload.shape m.Body).replaceAt d path (.ofMembers (fields.names.zip items)))

variable {m : Model} {d d' : Document}

theorem ofDocument_replaceAt {members : Dict Document} {path : List PathStep} {name : String}
    {fields : Fields} {items : List Document} (object : d.view = .object members)
    (declared : (Payload.shape m.Body).at? path = some (.record name fields))
    (written : (Payload.shape m.Body).valueAt? d path = some (.array items)) (x : m.Value) :
    Request.ofDocument m.Address m.Body d = .ok x ↔
      items.length ≤ fields.names.length ∧
        Request.ofDocument m.Address m.Body
          ((Payload.shape m.Body).replaceAt d path (.ofMembers (fields.names.zip items))) =
            .ok x := by
  have hwf := Shape.wellFormed_at m.wellFormed_shape declared
  have halike := Shape.readsLike_replaceAt m.wellFormed_shape declared written
    (Shape.array_readsLike hwf items) (by simp) (by simp [Document.ofMembers])
  have hbelow : path ≠ [] := by
    rintro rfl
    rw [Option.some.inj written, Document.view_array] at object
    exact nomatch object
  obtain ⟨members', object'⟩ := Shape.view_replaceAt_object object hbelow
  rw [Request.ofDocument_eq_ok_iff object, Request.ofDocument_eq_ok_iff object']
  simp only [halike _, and_assoc, exists_and_left]

theorem NamesItems.ofDocument_iff (step : m.NamesItems d d') (x : m.Value) :
    Request.ofDocument m.Address m.Body d = .ok x ↔
      Request.ofDocument m.Address m.Body d' = .ok x := by
  obtain ⟨object, declared, written, fits⟩ := step
  exact (ofDocument_replaceAt object declared written x).trans (and_iff_right fits)

/-- An array is no payload.  Where a payload declares a record, at the end of
whatever path, an array is read if it has no more items than the record has members
and the object that gives the items the declared names is read, and then as this
object: each member is read from the item in its place, or from nothing behind the
last one.  The payload around it comes out the same, also when many records in it
are written as arrays, next to each other or within each other. -/
theorem items_read_by_declared_names (m : Model) :
    (∀ items, Request.ofDocument m.Address m.Body (.array items) =
      .error (.notAnObject (.array items))) ∧
    (∀ path name fields, (Payload.shape m.Body).at? path = some (.record name fields) →
      ∀ items : List Document,
        (∀ v, (Shape.record name fields).decode (.array items) = .ok v ↔
          items.length ≤ fields.names.length ∧
            (Shape.record name fields).decode (.ofMembers (fields.names.zip items)) = .ok v) ∧
        (∀ v, (Shape.record name fields).decode (.array items) = .ok v ↔
          items.length ≤ fields.names.length ∧
            fields.Reads (fun key => (fields.names.zip items).lookup key) v) ∧
        ∀ d members, d.view = .object members →
          (Payload.shape m.Body).valueAt? d path = some (.array items) →
            ∀ x, Request.ofDocument m.Address m.Body d = .ok x ↔
              items.length ≤ fields.names.length ∧
                Request.ofDocument m.Address m.Body ((Payload.shape m.Body).replaceAt d path
                  (.ofMembers (fields.names.zip items))) = .ok x) ∧
    ∀ d d', Relation.ReflTransGen m.NamesItems d d' →
      ∀ x, Request.ofDocument m.Address m.Body d = .ok x ↔
        Request.ofDocument m.Address m.Body d' = .ok x := by
  refine ⟨fun items => ?_, fun path name fields declared items => ⟨?_, fun v => ?_, ?_⟩, ?_⟩
  · exact Request.ofDocument_of_not_object (by simp)
  · exact Shape.array_readsLike (Shape.wellFormed_at m.wellFormed_shape declared) items
  · exact Shape.decode_array_iff (Shape.wellFormed_at m.wellFormed_shape declared)
  · intro d members object written x
    exact ofDocument_replaceAt object declared written x
  · intro d d' steps x
    induction steps with
    | refl => exact Iff.rfl
    | tail _ step ih => exact ih.trans (step.ofDocument_iff x)

def thirdVersion : Document := .word (Word.ofInt64 3)

/-- The shadow before a change and the state in it, both written as arrays; the
metadata are null and the second section of the state is left out. -/
def unnamedSnapshot : Document := .ofMembers
  [("previous", .array [.array [.null], .null, thirdVersion])]

def halfNamedSnapshot : Document := .ofMembers
  [("previous", .ofMembers
    [("state", .array [.null]), ("metadata", .null), ("version", thirdVersion)])]

def namedSnapshot : Document := .ofMembers
  [("previous", .ofMembers
    [("state", .ofMembers [("desired", .null)]), ("metadata", .null),
      ("version", thirdVersion)])]

/-- What all three are read as: the null that is a section of the state is kept, the
one that stands for the metadata is not. -/
def readSnapshot : Request Unit ShadowUpdatedEvent :=
  ⟨(), { previous := some { state := some { desired := some .null }, version := some 3 } }⟩

/-- A list of jobs under a key, one of them with an item too many. -/
def overlongJob : Document := .ofMembers
  [("jobs", .ofMembers [("QUEUED", .array [.array (List.replicate 7 .null)])])]

theorem unnamed_snapshot_read :
    Request.ofDocument shadowUpdatedEvent.Address shadowUpdatedEvent.Body unnamedSnapshot =
        .ok readSnapshot ∧
      ∀ x, Request.ofDocument jobExecutionsChangedEvent.Address jobExecutionsChangedEvent.Body
        overlongJob ≠ .ok x := by
  constructor
  · obtain ⟨-, -, hchain⟩ := items_read_by_declared_names shadowUpdatedEvent
    have hhalf : shadowUpdatedEvent.NamesItems unnamedSnapshot halfNamedSnapshot :=
      @NamesItems.record _ unnamedSnapshot _ [.member "previous"] _
        (Payload.fields ShadowUpdatedSnapshot) [.array [.null], .null, thirdVersion]
        (Document.view_object _) rfl rfl (by decide)
    have hwhole : shadowUpdatedEvent.NamesItems halfNamedSnapshot namedSnapshot :=
      @NamesItems.record _ halfNamedSnapshot _ [.member "previous", .member "state"] _
        (Payload.fields ShadowState) [.null] (Document.view_object _) rfl rfl (by decide)
    exact (hchain _ _ (.head hhalf (.single hwhole)) _).mpr rfl
  · intro x hx
    obtain ⟨-, hplaces, -⟩ := items_read_by_declared_names jobExecutionsChangedEvent
    obtain ⟨-, -, hpayload⟩ :=
      hplaces [.member "jobs", .member "QUEUED", .item 0] _ _ rfl (List.replicate 7 .null)
    have hfits := ((hpayload overlongJob _ (Document.view_object _) rfl x).mp hx).1
    exact absurd hfits (by decide)

end Model

end DeviceLink
