import DeviceLink.Proofs.Shape.Member

/-!
# Places in a document

A path leads from a document to one of its parts, and from a shape to what is
declared for that part.  What a document gives for a declared place
(`Shape.valueAt?`) is found along the same path, except that a record may be
written as an array, where the part is found by the position of its name.

Decoding and encoding treat every declared place alike: nothing given leaves
nothing, a null that is no value leaves nothing, and everything else is decoded and
encoded where it stands (`Shape.kept_at`).
-/

namespace DeviceLink

/-! ## Paths -/

inductive PathStep
  | member (key : String)
  | item (index : Nat)
deriving DecidableEq, Repr

namespace Document

def part? (d : Document) : PathStep → Option Document
  | .member key =>
    match d.view with
    | .object members => members.get? key
    | _ => none
  | .item index =>
    match d.view with
    | .array items => items[index]?
    | _ => none

theorem part?_array (items : List Document) (index : Nat) :
    (array items).part? (.item index) = items[index]? := by
  rw [part?, view_array]

theorem part?_object (members : Dict Document) (key : String) :
    (object members).part? (.member key) = members.get? key := by
  rw [part?, view_object]

def at? (d : Document) : List PathStep → Option Document
  | [] => some d
  | step :: rest => (d.part? step).bind fun part => part.at? rest

theorem at?_concat (d : Document) (above : List PathStep) (step : PathStep) :
    d.at? (above ++ [step]) = (d.at? above).bind fun part => part.part? step := by
  induction above generalizing d with
  | nil => simp [at?]
  | cons step' rest ih =>
      rw [List.cons_append, at?, at?]
      cases d.part? step' with
      | none => rfl
      | some part => exact ih part

end Document

namespace Shape

def part? : Shape → PathStep → Option Shape
  | .record _ fields, .member key => fields.shapeOf? key
  | .list item, .item _ => some item
  | .dict value, .member _ => some value
  | _, _ => none

def at? (shape : Shape) : List PathStep → Option Shape
  | [] => some shape
  | step :: rest => (shape.part? step).bind fun part => part.at? rest

def given? : Shape → Document → PathStep → Option Document
  | .record _ fields, d, .member key => fields.given? d key
  | _, d, step => d.part? step

/-- What a document gives at the end of a path.  Below what is declared the path is
followed in the document alone. -/
def valueAt? (shape : Shape) (d : Document) : List PathStep → Option Document
  | [] => some d
  | step :: rest =>
    (shape.given? d step).bind fun value =>
      match shape.part? step with
      | some part => part.valueAt? value rest
      | none => value.at? rest

theorem at?_concat (shape : Shape) (above : List PathStep) (step : PathStep) :
    shape.at? (above ++ [step]) = (shape.at? above).bind fun part => part.part? step := by
  induction above generalizing shape with
  | nil => simp [at?]
  | cons step' rest ih =>
      rw [List.cons_append, at?, at?]
      cases shape.part? step' with
      | none => rfl
      | some part => exact ih part

/-- Where every record on the way is written as an object, the path is the same one
in the document. -/
theorem valueAt?_of_objects {shape : Shape} {d : Document} {path : List PathStep}
    (objects : ∀ above step below, path = above ++ step :: below →
      ∀ name fields, shape.at? above = some (.record name fields) →
        ∀ record, d.at? above = some record → ∃ members, record.view = .object members) :
    shape.valueAt? d path = d.at? path := by
  induction path generalizing shape d with
  | nil => rfl
  | cons step rest ih =>
      have hgiven : shape.given? d step = d.part? step := by
        cases shape with
        | record name fields =>
            obtain ⟨members, hview⟩ := objects [] step rest rfl name fields rfl d rfl
            cases step <;> simp [given?, Fields.given?, Document.part?, hview]
        | list | dict | text | flag | int32 | int64 | time | status | errorCode | free =>
            simp [given?]
      rw [valueAt?, Document.at?, hgiven]
      cases hpart : d.part? step with
      | none => rfl
      | some value =>
          cases hdeclared : shape.part? step with
          | none => rfl
          | some part =>
              refine ih fun above step' below hpath name fields hlevel record hrecord => ?_
              apply objects (step :: above) step' below (congrArg (step :: ·) hpath) name fields
              · rw [at?, hdeclared]
                exact hlevel
              · rw [Document.at?, hpart]
                exact hrecord

end Shape

/-! ## What is left of a part -/

theorem decodeEach_cons {α : Type} (f : Document → Except Fault α) (d : Document)
    (rest : List Document) :
    decodeEach f (d :: rest) = (f d).bind fun x => (decodeEach f rest).map (x :: ·) := by
  rw [decodeEach]
  cases f d with
  | error fault => rfl
  | ok x => cases decodeEach f rest <;> rfl

theorem getElem?_decodeEach {α : Type} {f : Document → Except Fault α} {items : List Document}
    {xs : List α} (decoded : decodeEach f items = .ok xs) (index : Nat) :
    Option.Rel (fun d x => f d = .ok x) items[index]? xs[index]? := by
  induction items generalizing xs index with
  | nil =>
      obtain rfl := Except.ok.inj decoded
      exact .none
  | cons d rest ih =>
      rw [decodeEach_cons] at decoded
      obtain ⟨x, hhead, hitems⟩ := Except.bind_eq_ok.mp decoded
      obtain ⟨others, hrest, rfl⟩ := Except.map_eq_ok.mp hitems
      cases index with
      | zero => exact .some hhead
      | succ index => exact ih hrest index

namespace Shape

theorem isOmission_eq_true {shape : Shape} {d : Document} :
    shape.isOmission d = true ↔ d.view = .null ∧ shape.keepsNull = false := by
  rw [isOmission]
  cases d.view <;> simp

/-- What is decoded is no omission: a null fits only where it is a value. -/
theorem isOmission_of_decode {shape : Shape} {d : Document} {v : shape.Val}
    (decoded : shape.decode d = .ok v) : shape.isOmission d = false := by
  rw [← Bool.not_eq_true, isOmission_eq_true]
  rintro ⟨hnull, hkeeps⟩
  cases shape with
  | free => exact nomatch hkeeps
  | text | flag | int32 | int64 | time | status | errorCode | record | list | dict =>
      simp [decode, decodeText, decodeFlag, decodeInteger, decodeTime, decodeName, hnull,
        Except.map] at decoded

theorem Kept.of_rel {shape : Shape} {given : Option Document} {v : Option shape.Val}
    (decoded : Option.Rel (fun d v => shape.decode d = .ok v) given v) :
    shape.Kept given (v.map shape.encode) := by
  cases decoded with
  | none => exact .absent
  | some hdecode => exact .kept hdecode

theorem wellFormed_shapeOf? : ∀ {fields : Fields} {key : String} {part : Shape},
    fields.wellFormed = true → fields.shapeOf? key = some part → part.wellFormed = true
  | .cons name shape rest, key, part, wf, known => by
      obtain ⟨-, wfShape, wf⟩ := Fields.wellFormed_cons.mp wf
      rw [Fields.shapeOf?] at known
      split at known
      · exact Option.some.inj known ▸ wfShape
      · exact wellFormed_shapeOf? wf known

theorem wellFormed_part {shape part : Shape} {step : PathStep} (wf : shape.wellFormed = true)
    (declared : shape.part? step = some part) : part.wellFormed = true := by
  cases shape with
  | record name fields =>
      cases step with
      | member key => exact wellFormed_shapeOf? wf declared
      | item index => exact nomatch declared
  | list item =>
      cases step with
      | member key => exact nomatch declared
      | item index => exact Option.some.inj declared ▸ wf
  | dict value =>
      cases step with
      | member key => exact Option.some.inj declared ▸ wf
      | item index => exact nomatch declared
  | text | flag | int32 | int64 | time | status | errorCode | free => exact nomatch declared

theorem wellFormed_at {shape part : Shape} {path : List PathStep} (wf : shape.wellFormed = true)
    (declared : shape.at? path = some part) : part.wellFormed = true := by
  induction path generalizing shape with
  | nil => exact Option.some.inj declared ▸ wf
  | cons step rest ih =>
      obtain ⟨mid, hmid, hrest⟩ := Option.bind_eq_some_iff.mp declared
      exact ih (wellFormed_part wf hmid) hrest

/-- A null gives nothing for any part. -/
theorem given?_of_null (shape : Shape) {d : Document} (null : d.view = .null)
    (step : PathStep) : shape.given? d step = none := by
  have hpart : d.part? step = none := by
    cases step <;> simp [Document.part?, null]
  cases shape with
  | record name fields =>
      cases step with
      | member key => simp [given?, Fields.given?, null]
      | item index => exact hpart
  | list | dict | text | flag | int32 | int64 | time | status | errorCode | free => exact hpart

theorem part?_encodeMembers {fields : Fields} (wf : fields.wellFormed = true) (v : fields.Val)
    (key : String) :
    (Document.ofMembers (fields.encodeMembers v)).part? (.member key) = fields.member? v key := by
  rw [Document.ofMembers, Document.part?_object, Fields.get?_members wf]

theorem kept_item {item : Shape} {d : Document} {xs : List item.Val}
    (decoded : (list item).decode d = .ok xs) (index : Nat) :
    item.Kept (d.part? (.item index))
      ((Document.array (xs.map item.encode)).part? (.item index)) := by
  rw [decode] at decoded
  rw [Document.part?_array, List.getElem?_map, Document.part?]
  cases hview : d.view with
  | array items =>
      rw [hview] at decoded
      exact .of_rel (getElem?_decodeEach decoded index)
  | null | bool _ | word _ | double _ | text _ | object _ =>
      rw [hview] at decoded
      exact nomatch decoded

theorem kept_entry {value : Shape} {d : Document} {xs : Dict value.Val}
    (decoded : (dict value).decode d = .ok xs) (key : String) :
    value.Kept (d.part? (.member key))
      ((Document.object (xs.map value.encode)).part? (.member key)) := by
  rw [decode] at decoded
  rw [Document.part?_object, Dict.get?_map, Document.part?]
  cases hview : d.view with
  | object members =>
      rw [hview] at decoded
      exact .of_rel (Dict.get?_tryMap key decoded)
  | null | bool _ | word _ | double _ | text _ | array _ =>
      rw [hview] at decoded
      exact nomatch decoded

/-- What is left of each declared part. -/
theorem kept_part {shape part : Shape} {step : PathStep} {d : Document} {v : shape.Val}
    (wf : shape.wellFormed = true) (decoded : shape.decode d = .ok v)
    (declared : shape.part? step = some part) :
    part.Kept (shape.given? d step) ((shape.encode v).part? step) := by
  cases shape with
  | record name fields =>
      cases step with
      | member key =>
          have hmember := part?_encodeMembers wf v key
          exact hmember ▸ kept_member wf decoded declared
      | item index => exact nomatch declared
  | list item =>
      cases step with
      | member key => exact nomatch declared
      | item index =>
          obtain rfl := Option.some.inj declared
          exact kept_item decoded index
  | dict value =>
      cases step with
      | member key =>
          obtain rfl := Option.some.inj declared
          exact kept_entry decoded key
      | item index => exact nomatch declared
  | text | flag | int32 | int64 | time | status | errorCode | free => exact nomatch declared

/-- What is left at each declared place. -/
theorem kept_at {shape part : Shape} {path : List PathStep} {d : Document} {v : shape.Val}
    (wf : shape.wellFormed = true) (decoded : shape.decode d = .ok v)
    (declared : shape.at? path = some part) :
    part.Kept (shape.valueAt? d path) ((shape.encode v).at? path) := by
  induction path generalizing shape d with
  | nil =>
      obtain rfl := Option.some.inj declared
      exact .kept decoded
  | cons step rest ih =>
      obtain ⟨mid, hmid, hrest⟩ := Option.bind_eq_some_iff.mp declared
      rw [valueAt?, hmid, Document.at?]
      have hkept := kept_part wf decoded hmid
      generalize shape.given? d step = given at hkept
      generalize (shape.encode v).part? step = kept at hkept
      cases hkept with
      | absent => exact .absent
      | omitted omission =>
          -- Below a null that is left out nothing is given either.
          cases rest with
          | nil =>
              obtain rfl := Option.some.inj hrest
              exact .omitted omission
          | cons step' rest =>
              have hnull := (isOmission_eq_true.mp omission).1
              show part.Kept ((mid.given? _ step').bind _) none
              rw [given?_of_null mid hnull step']
              exact .absent
      | kept hdecode => exact ih (wellFormed_part wf hmid) hdecode hrest

end Shape

end DeviceLink
