import DeviceLink.Proofs.Shape.Place
import DeviceLink.Proofs.Shape.Tolerance

/-!
# Decoding and encoding again

A document that a model decodes is brought into a normal form by encoding what was
decoded.  Members that are not known are gone, and so are those that a null leaves
out; a free document is kept as it is, a null among them, so a null that asks the
service to clear something is neither lost nor made up
(`Model.reencoding_normalises`).
-/

namespace DeviceLink

/-! ## Members of the normal form -/

namespace Shape

variable {shape : Shape} {given kept : Option Document}

theorem Kept.isSome_iff (h : shape.Kept given kept) : (∃ value, kept = some value) ↔
    ∃ value, given = some value ∧ (value.view ≠ .null ∨ shape.keepsNull = true) := by
  cases h with
  | absent => simp
  | omitted omission =>
      obtain ⟨hnull, hkeeps⟩ := isOmission_eq_true.mp omission
      simp [hnull, hkeeps]
  | @kept d v decoded =>
      have homission := isOmission_of_decode decoded
      rw [← Bool.not_eq_true, isOmission_eq_true, not_and_or, Bool.not_eq_false] at homission
      simp [homission]

theorem Kept.free (h : Shape.free.Kept given kept) : kept = given := by
  cases h with
  | absent => rfl
  | omitted omission => exact nomatch (isOmission_eq_true.mp omission).2
  | kept decoded => exact congrArg some (Except.ok.inj decoded).symm

/-- Whatever is kept of something is the document of a value. -/
theorem Kept.exists_encode {value : Document} (h : shape.Kept given (some value)) :
    ∃ v, value = shape.encode v := by
  cases h with
  | kept decoded => exact ⟨_, rfl⟩

/-- The document of a value has no parts but the declared ones, except within a free
document. -/
theorem part?_encode_of_undeclared {step : PathStep} (wf : shape.wellFormed = true)
    (undeclared : shape.part? step = none) (notFree : shape.keepsNull = false) (v : shape.Val) :
    (shape.encode v).part? step = none := by
  cases shape with
  | record name fields =>
      cases step with
      | member key =>
          have hfresh : key ∉ fields.names := by
            intro hmem
            obtain ⟨part, hpart⟩ := Fields.exists_shapeOf? hmem
            exact nomatch hpart.symm.trans undeclared
          exact (part?_encodeMembers wf v key).trans (Fields.member?_of_fresh hfresh v)
      | item index => rfl
  | list item =>
      cases step with
      | member key => rfl
      | item index => exact nomatch undeclared
  | dict value =>
      cases step with
      | member key => exact nomatch undeclared
      | item index => rfl
  | free => exact nomatch notFree
  | text | flag | int32 | int64 | time | status | errorCode =>
      cases step <;> rfl

theorem eq_free_of_keepsNull : ∀ {shape : Shape}, shape.keepsNull = true → shape = .free
  | .free, _ => rfl

/-- Whatever stands in the document of a value is a declared value or within a free
document. -/
theorem declared_or_free {path : List PathStep} {v : shape.Val} {value : Document}
    (wf : shape.wellFormed = true) (found : (shape.encode v).at? path = some value) :
    (∃ (part : Shape) (w : part.Val), shape.at? path = some part ∧ value = part.encode w) ∨
      ∃ above below, path = above ++ below ∧ shape.at? above = some .free := by
  induction path generalizing shape with
  | nil =>
      obtain rfl := Option.some.inj found
      exact .inl ⟨shape, v, rfl, rfl⟩
  | cons step rest ih =>
      cases hkeeps : shape.keepsNull with
      | true => exact .inr ⟨[], step :: rest, rfl, congrArg some (eq_free_of_keepsNull hkeeps)⟩
      | false =>
          obtain ⟨inner, hinner, hfound⟩ := Option.bind_eq_some_iff.mp found
          cases hpart : shape.part? step with
          | none =>
              have hgone := part?_encode_of_undeclared wf hpart hkeeps v
              exact nomatch hinner.symm.trans hgone
          | some part =>
              -- A value is what its own document is decoded to.
              have hkept := kept_part wf (shape.decode_encode wf v) hpart
              rw [hinner] at hkept
              obtain ⟨w, rfl⟩ := hkept.exists_encode
              rcases ih (wellFormed_part wf hpart) hfound with
                ⟨p, x, hp, hx⟩ | ⟨above, below, hsplit, hfree⟩
              · refine .inl ⟨p, x, ?_, hx⟩
                rw [at?, hpart]
                exact hp
              · refine .inr ⟨step :: above, below, congrArg (step :: ·) hsplit, ?_⟩
                rw [at?, hpart]
                exact hfree

/-- Every null in the document of a value is a free document or within one. -/
theorem null_within_free {path : List PathStep} {v : shape.Val} {value : Document}
    (wf : shape.wellFormed = true) (found : (shape.encode v).at? path = some value)
    (null : value.view = .null) :
    ∃ above below, path = above ++ below ∧ shape.at? above = some .free := by
  rcases declared_or_free wf found with ⟨part, w, hdeclared, rfl⟩ | hfree
  · have hkeeps : part.keepsNull = true := by
      have homission := part.isOmission_encode w
      rw [← Bool.not_eq_true, isOmission_eq_true, not_and, Bool.not_eq_false] at homission
      exact homission null
    rw [eq_free_of_keepsNull hkeeps] at hdeclared
    exact ⟨path, [], (List.append_nil path).symm, hdeclared⟩
  · exact hfree

variable {name key : String} {fields : Fields} {path : List PathStep} {d : Document}
  {v : shape.Val}

/-- What is left of a member of a record, at any depth. -/
theorem kept_member_at (wf : shape.wellFormed = true) (decoded : shape.decode d = .ok v)
    (level : shape.at? path = some (.record name fields)) {part : Shape}
    (known : fields.shapeOf? key = some part) :
    part.Kept (shape.valueAt? d (path ++ [.member key]))
      ((shape.encode v).at? (path ++ [.member key])) := by
  apply kept_at wf decoded
  rw [at?_concat, level]
  exact known

/-- Nothing is left of a member that is not known. -/
theorem unknown_member_at (wf : shape.wellFormed = true) (v : shape.Val)
    (level : shape.at? path = some (.record name fields)) (unknown : fields.shapeOf? key = none) :
    (shape.encode v).at? (path ++ [.member key]) = none := by
  have hkept := kept_at wf (shape.decode_encode wf v) level
  rw [Document.at?_concat]
  cases hrecord : (shape.encode v).at? path with
  | none => rfl
  | some record =>
      rw [hrecord] at hkept
      obtain ⟨w, rfl⟩ := hkept.exists_encode
      have hundeclared : (Shape.record name fields).part? (.member key) = none := unknown
      exact part?_encode_of_undeclared (wellFormed_at wf level) hundeclared rfl w

end Shape

/-! ## Which members hold free documents -/

mutual

/-- The members that are named hold free documents, and nothing else does. -/
def Shape.freeWhere (named : String → String → Bool) : Shape → Bool
  | .record name fields => fields.freeWhere named name
  | .list item => !item.keepsNull && item.freeWhere named
  | .dict value => !value.keepsNull && value.freeWhere named
  | _ => true

def Fields.freeWhere (named : String → String → Bool) (record : String) : Fields → Bool
  | .nil => true
  | .cons name shape rest =>
    shape.keepsNull == named record name && shape.freeWhere named && rest.freeWhere named record

end

section FreeWhere

variable {named : String → String → Bool} {name key : String} {fields : Fields}
  {shape part : Shape}

theorem Fields.freeWhere_shapeOf? : ∀ {fields : Fields},
    fields.freeWhere named name = true → fields.shapeOf? key = some part →
      part.keepsNull = named name key ∧ part.freeWhere named = true
  | .cons first shape rest, holds, known => by
      simp only [Fields.freeWhere, Bool.and_eq_true, beq_iff_eq] at holds
      obtain ⟨⟨hkeeps, hshape⟩, hrest⟩ := holds
      rw [Fields.shapeOf?] at known
      split at known
      · next hkey =>
          obtain rfl := Option.some.inj known
          exact ⟨hkey ▸ hkeeps, hshape⟩
      · exact Fields.freeWhere_shapeOf? hrest known

namespace Shape

/-- A part that is a free document is a named member. -/
theorem freeWhere_part {step : PathStep} (holds : shape.freeWhere named = true)
    (declared : shape.part? step = some part) :
    part.freeWhere named = true ∧ (part.keepsNull = true →
      ∃ name fields key, shape = .record name fields ∧ step = .member key ∧
        key ∈ fields.names ∧ named name key = true) := by
  cases shape with
  | record name fields =>
      cases step with
      | member key =>
          obtain ⟨hkeeps, hpart⟩ := Fields.freeWhere_shapeOf? holds declared
          refine ⟨hpart, fun hfree => ⟨name, fields, key, rfl, rfl, ?_, hkeeps ▸ hfree⟩⟩
          exact Fields.mem_names_of_shapeOf? declared
      | item index => exact nomatch declared
  | list item =>
      cases step with
      | member key => exact nomatch declared
      | item index =>
          obtain rfl := Option.some.inj declared
          simp only [freeWhere, Bool.and_eq_true, Bool.not_eq_true'] at holds
          exact ⟨holds.2, fun hfree => nomatch holds.1.symm.trans hfree⟩
  | dict value =>
      cases step with
      | member key =>
          obtain rfl := Option.some.inj declared
          simp only [freeWhere, Bool.and_eq_true, Bool.not_eq_true'] at holds
          exact ⟨holds.2, fun hfree => nomatch holds.1.symm.trans hfree⟩
      | item index => exact nomatch declared
  | text | flag | int32 | int64 | time | status | errorCode | free => exact nomatch declared

theorem freeWhere_at {path : List PathStep} (holds : shape.freeWhere named = true)
    (declared : shape.at? path = some part) : part.freeWhere named = true := by
  induction path generalizing shape with
  | nil => exact Option.some.inj declared ▸ holds
  | cons step rest ih =>
      obtain ⟨mid, hmid, hrest⟩ := Option.bind_eq_some_iff.mp declared
      exact ih (freeWhere_part holds hmid).1 hrest

/-- Every free document below a record is a named member of some record. -/
theorem named_of_free {path : List PathStep} (holds : shape.freeWhere named = true)
    (notFree : shape.keepsNull = false) (declared : shape.at? path = some .free) :
    ∃ above name fields key, path = above ++ [.member key] ∧
      shape.at? above = some (.record name fields) ∧ key ∈ fields.names ∧
        named name key = true := by
  rcases path.eq_nil_or_concat' with rfl | ⟨above, step, rfl⟩
  · obtain rfl := Option.some.inj declared
    exact nomatch notFree
  · rw [at?_concat] at declared
    obtain ⟨level, hlevel, hpart⟩ := Option.bind_eq_some_iff.mp declared
    obtain ⟨name, fields, key, rfl, rfl, hmem, hnamed⟩ :=
      (freeWhere_part (freeWhere_at holds hlevel) hpart).2 rfl
    exact ⟨above, name, fields, key, rfl, hlevel, hmem, hnamed⟩

end Shape

end FreeWhere

/-! ## Models -/

namespace Model

/-- The members in which a null asks the service to clear something. -/
def holdsDocument (record key : String) : Bool :=
  ["jobDocument", "desired", "reported", "delta"].contains key ||
    record == "ShadowDeltaUpdatedEvent" && ["state", "metadata"].contains key

theorem freeWhere_holdsDocument (m : Model) :
    (Payload.shape m.Body).freeWhere holdsDocument = true := by
  cases m <;> rfl

/-- The document of what a document is decoded to. -/
def normalise (m : Model) (d : Document) : Except CodecError Document :=
  (Request.ofDocument m.Address m.Body d).map Request.toDocument

/-- What is encoded again is the encoding of what the document's shape decodes. -/
theorem normalise_eq_ok {m : Model} {d n : Document} (encoded : m.normalise d = .ok n) :
    ∃ v, (Payload.shape m.Body).decode d = .ok v ∧ n = (Payload.shape m.Body).encode v ∧
      Request.ofDocument m.Address m.Body d = .ok ⟨default, Payload.ofVal v⟩ := by
  obtain ⟨x, hx, rfl⟩ := Except.map_eq_ok.mp encoded
  cases hview : d.view with
  | object members =>
      obtain ⟨v, hdecode⟩ := (Request.ofDocument_eq_ok hview).mp ⟨x, hx⟩
      have hvalue : Request.ofDocument m.Address m.Body d = .ok ⟨default, Payload.ofVal v⟩ := by
        rw [Request.ofDocument_of_object hview, hdecode]
        rfl
      obtain rfl := Except.ok.inj (hx.symm.trans hvalue)
      refine ⟨v, hdecode, ?_, hvalue⟩
      exact congrArg (Payload.shape m.Body).encode (Payload.toVal_ofVal v)
  | null | bool _ | word _ | double _ | text _ | array _ =>
      rw [Request.ofDocument_of_not_object (by simp [hview])] at hx
      exact nomatch hx

/-- Decoding and encoding again leaves a document that is decoded to the same value
and is not changed any further.  At every level, a record has those members left
that are known, given, and not null unless they hold free documents; what such a
member holds is left as it is, and there is no null elsewhere.  Where records are
written as objects, what is given at a path stands at this path in the document
(`Shape.valueAt?_of_objects`). -/
theorem reencoding_normalises (m : Model) {d n : Document} (encoded : m.normalise d = .ok n) :
    Request.ofDocument m.Address m.Body n = Request.ofDocument m.Address m.Body d ∧
      m.normalise n = .ok n ∧
      (∀ path name fields, (Payload.shape m.Body).at? path = some (.record name fields) →
        (∀ key, (∃ value, n.at? (path ++ [.member key]) = some value) ↔
          key ∈ fields.names ∧
            ∃ value, (Payload.shape m.Body).valueAt? d (path ++ [.member key]) = some value ∧
              (value.view ≠ .null ∨ holdsDocument name key = true)) ∧
        ∀ key ∈ fields.names, holdsDocument name key = true →
          n.at? (path ++ [.member key]) =
            (Payload.shape m.Body).valueAt? d (path ++ [.member key])) ∧
      ∀ path value, n.at? path = some value → value.view = .null →
        ∃ above name fields key below, path = above ++ .member key :: below ∧
          (Payload.shape m.Body).at? above = some (.record name fields) ∧
            key ∈ fields.names ∧ holdsDocument name key = true := by
  obtain ⟨v, hdecode, rfl, hvalue⟩ := normalise_eq_ok encoded
  have hwf := m.wellFormed_shape
  have hfree := m.freeWhere_holdsDocument
  have hagain : Request.ofDocument m.Address m.Body ((Payload.shape m.Body).encode v) =
      .ok ⟨default, Payload.ofVal v⟩ := by
    have hobject : ∃ members, ((Payload.shape m.Body).encode v).view = .object members :=
      ⟨_, Document.view_object _⟩
    obtain ⟨members, hview⟩ := hobject
    rw [Request.ofDocument_of_object hview, (Payload.shape m.Body).decode_encode hwf v]
    rfl
  refine ⟨hagain.trans hvalue.symm, ?_, fun path name fields hlevel => ⟨fun key => ?_, ?_⟩, ?_⟩
  · rw [normalise, hagain]
    rw [normalise, hvalue] at encoded
    exact encoded
  · cases hknown : fields.shapeOf? key with
    | none =>
        have hgone := Shape.unknown_member_at hwf v hlevel hknown
        refine iff_of_false (by simp [hgone]) fun ⟨hmem, _⟩ => ?_
        obtain ⟨part, hpart⟩ := Fields.exists_shapeOf? hmem
        exact nomatch hpart.symm.trans hknown
    | some part =>
        have hkept := Shape.kept_member_at hwf hdecode hlevel hknown
        have hkeeps := (Fields.freeWhere_shapeOf? (Shape.freeWhere_at hfree hlevel) hknown).1
        rw [hkept.isSome_iff, hkeeps, and_iff_right (Fields.mem_names_of_shapeOf? hknown)]
  · intro key hmem hholds
    obtain ⟨part, hknown⟩ := Fields.exists_shapeOf? hmem
    have hkeeps := (Fields.freeWhere_shapeOf? (Shape.freeWhere_at hfree hlevel) hknown).1
    obtain rfl := Shape.eq_free_of_keepsNull (hkeeps.trans hholds)
    exact (Shape.kept_member_at hwf hdecode hlevel hknown).free
  · intro path value hfound hnull
    obtain ⟨within, below, rfl, hdeclared⟩ := Shape.null_within_free hwf hfound hnull
    obtain ⟨above, name, fields, key, rfl, hlevel, hmem, hnamed⟩ :=
      Shape.named_of_free hfree rfl hdeclared
    exact ⟨above, name, fields, key, below, List.append_assoc _ _ _, hlevel, hmem, hnamed⟩

/-- An answer with nulls, a member that is not known and an older spelling. -/
def untidyAnswer : Document := .ofMembers
  [("execution", .ofMembers
      [("jobDocument", .null), ("jobId", .null), ("priority", .bool true),
        ("status", .text "SUCCESS")]),
    ("timestamp", .null)]

def tidyAnswer : Document := .ofMembers
  [("execution", .ofMembers [("jobDocument", .null), ("status", .text "SUCCEEDED")])]

/-- The null that is a job document is kept, the other ones are left out. -/
theorem job_document_kept_null :
    describeJobExecutionResponse.normalise untidyAnswer = .ok tidyAnswer ∧
      describeJobExecutionResponse.normalise tidyAnswer = .ok tidyAnswer ∧
      tidyAnswer.at? [.member "execution", .member "jobDocument"] = some .null ∧
      tidyAnswer.at? [.member "execution", .member "jobId"] = none := by
  have hencoded : describeJobExecutionResponse.normalise untidyAnswer = .ok tidyAnswer := rfl
  obtain ⟨-, hagain, hmembers, -⟩ := reencoding_normalises _ hencoded
  obtain ⟨hleft, hfree⟩ := hmembers [.member "execution"] _ _ rfl
  refine ⟨hencoded, hagain, hfree "jobDocument" (by decide) rfl, ?_⟩
  apply Option.eq_none_iff_forall_not_mem.mpr
  intro value hvalue
  obtain ⟨-, given, hgiven, hkept⟩ := (hleft "jobId").mp ⟨value, hvalue⟩
  obtain rfl : Document.null = given := Option.some.inj hgiven
  rcases hkept with hvalue | hnamed
  · exact hvalue rfl
  · exact nomatch hnamed

end Model

end DeviceLink
