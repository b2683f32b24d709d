import DeviceLink.Proofs.Shape.Grammar
import DeviceLink.Proofs.Shape.RoundTrip

/-!
# What becomes of a member

A value that is decoded and encoded again keeps a member of a record exactly if the
member was given and was not left out by a null, and what it keeps is the member
decoded and encoded again (`Shape.Kept`).  This holds of a record that is written as
an object, whatever the order of its members and whatever else it holds, and of one
that is written as an array (`Shape.kept_member`).
-/

namespace DeviceLink

def Fields.given? (fields : Fields) (d : Document) (key : String) : Option Document :=
  match d.view with
  | .object members => members.get? key
  | .array items => (fields.names.zip items).lookup key
  | _ => none

/-- What stands in the place of something that was given, after decoding and
encoding. -/
inductive Shape.Kept (shape : Shape) : Option Document → Option Document → Prop
  | absent : Kept shape none none
  /-- A null that is no value. -/
  | omitted {d : Document} (omission : shape.isOmission d = true) : Kept shape (some d) none
  | kept {d : Document} {v : shape.Val} (decoded : shape.decode d = .ok v) :
      Kept shape (some d) (some (shape.encode v))

/-! ## Members of an encoded value -/

namespace Fields

variable {name key : String} {shape : Shape} {rest : Fields}

def member? (fields : Fields) (v : fields.Val) (key : String) : Option Document :=
  (fields.encodeMembers v).lookup key

theorem member?_of_fresh {fields : Fields} (fresh : key ∉ fields.names) (v : fields.Val) :
    fields.member? v key = none := by
  rw [member?, Dict.lookup_eq_none_iff, fields.keys_encodeMembers]
  exact fun hmem => fresh ((fields.present_sublist v).subset hmem)

theorem member?_absent : ∀ (fields : Fields) (key : String),
    fields.member? fields.absent key = none
  | .nil, _ => rfl
  | .cons _ _ rest, key => rest.member?_absent key

theorem member?_cons_self (fresh : name ∉ rest.names) (v : Option shape.Val) (others : rest.Val) :
    (cons name shape rest).member? (v, others) name = v.map shape.encode := by
  cases v with
  | none => exact member?_of_fresh fresh others
  | some v => exact Dict.lookup_cons.trans (if_pos rfl)

theorem member?_cons_other (other : key ≠ name) (v : Option shape.Val) (others : rest.Val) :
    (cons name shape rest).member? (v, others) key = rest.member? others key := by
  cases v with
  | none => rfl
  | some v => exact Dict.lookup_cons.trans (if_neg other)

theorem get?_members {fields : Fields} (wf : fields.wellFormed = true) (v : fields.Val)
    (key : String) : (Dict.ofList (fields.encodeMembers v)).get? key = fields.member? v key := by
  apply Dict.get?_ofList
  rw [fields.keys_encodeMembers v]
  exact (fields.present_sublist v).nodup (Fields.nodup_names wf)

theorem mem_names_of_shapeOf? : ∀ {fields : Fields}, fields.shapeOf? key = some shape →
    key ∈ fields.names
  | .nil, h => nomatch h
  | .cons name shape rest, h => by
      rw [shapeOf?] at h
      split at h
      · next hkey => exact hkey ▸ List.mem_cons_self
      · exact List.mem_cons_of_mem _ (mem_names_of_shapeOf? h)

theorem exists_shapeOf? : ∀ {fields : Fields}, key ∈ fields.names →
    ∃ shape, fields.shapeOf? key = some shape
  | .cons name shape rest, h => by
      rw [shapeOf?]
      split
      · exact ⟨shape, rfl⟩
      · next hkey => exact exists_shapeOf? ((List.mem_cons.mp h).resolve_left hkey)

end Fields

/-! ## Reading one member -/

def Shape.decodeMember (shape : Shape) (d : Document) : Except Fault (Option shape.Val) :=
  if shape.isOmission d then .ok none else (shape.decode d).map some

theorem Shape.kept_of_decodeMember {shape : Shape} {d : Document} {v : Option shape.Val}
    (decoded : shape.decodeMember d = .ok v) : shape.Kept (some d) (v.map shape.encode) := by
  rw [Shape.decodeMember] at decoded
  split at decoded
  · next homission =>
      rw [← Except.ok.inj decoded]
      exact .omitted homission
  · obtain ⟨w, hdecode, rfl⟩ := Except.map_eq_ok.mp decoded
    exact .kept hdecode

namespace Fields

variable {name key : String} {shape : Shape} {rest : Fields} {d : Document}

theorem assign_self {current : Option shape.Val} {others : rest.Val} :
    (cons name shape rest).assign name d (current, others) =
      (shape.decodeMember d).map fun v => (v, others) := by
  rw [assign, if_pos rfl, Shape.decodeMember]
  split
  · rfl
  · cases shape.decode d <;> rfl

theorem assign_other {current : Option shape.Val} {others : rest.Val} (other : key ≠ name) :
    (cons name shape rest).assign key d (current, others) =
      (rest.assign key d others).map fun others => (current, others) := by
  rw [assign, if_neg other]
  rfl

theorem decodeItems_cons (items : List Document) :
    (cons name shape rest).decodeItems (d :: items) =
      (shape.decodeMember d).bind fun v =>
        (rest.decodeItems items).map fun others => (v, others) := by
  rw [decodeItems, Shape.decodeMember]
  cases (if shape.isOmission d then .ok none else (shape.decode d).map some) <;> rfl

/-! ## Reading a record -/

/-- Putting a member into its place keeps it and touches no other. -/
theorem member?_assign : ∀ {fields : Fields}, fields.wellFormed = true →
    ∀ {key : String} {d : Document} {v w : fields.Val}, fields.assign key d v = .ok w →
      (∀ shape, fields.shapeOf? key = some shape → shape.Kept (some d) (fields.member? w key)) ∧
        ∀ other, other ≠ key → fields.member? w other = fields.member? v other
  | .nil, _, _, _, _, _, _ => ⟨nofun, fun _ _ => rfl⟩
  | .cons name shape rest, wf, key, d, (current, others), w, assigned => by
      obtain ⟨fresh, -, wf⟩ := wellFormed_cons.mp wf
      by_cases hkey : key = name
      · subst hkey
        rw [assign_self] at assigned
        obtain ⟨v, hmember, rfl⟩ := Except.map_eq_ok.mp assigned
        refine ⟨fun found hfound => ?_, fun other hother => ?_⟩
        · rw [shapeOf?, if_pos rfl] at hfound
          obtain rfl := Option.some.inj hfound
          rw [member?_cons_self fresh]
          exact Shape.kept_of_decodeMember hmember
        · rw [member?_cons_other hother, member?_cons_other hother]
      · rw [assign_other hkey] at assigned
        obtain ⟨others', hrest, rfl⟩ := Except.map_eq_ok.mp assigned
        obtain ⟨hkept, hsame⟩ := member?_assign wf hrest
        refine ⟨fun found hfound => ?_, fun other hother => ?_⟩
        · rw [shapeOf?, if_neg hkey] at hfound
          rw [member?_cons_other hkey]
          exact hkept found hfound
        · by_cases hname : other = name
          · subst hname
            rw [member?_cons_self fresh, member?_cons_self fresh]
          · rw [member?_cons_other hname, member?_cons_other hname]
            exact hsame other hother

theorem foldMembers_cons {α : Type} (f : α → String → Document → Except Fault α) (a : α)
    (key : String) (d : Document) (rest : List (String × Document)) :
    foldMembers f a ((key, d) :: rest) = (f a key d).bind fun b => foldMembers f b rest := by
  rw [foldMembers]
  cases f a key d <;> rfl

/-- A walk over members with different keys keeps what stands under each key, and
leaves alone what no key is given for. -/
theorem member?_foldMembers {fields : Fields} (wf : fields.wellFormed = true)
    {shape : Shape} (known : fields.shapeOf? key = some shape) {v w : fields.Val}
    {members : List (String × Document)} (different : (members.map (·.1)).Nodup)
    (walked : foldMembers (fun v key d => fields.assign key d v) v members = .ok w) :
    (members.lookup key = none → fields.member? w key = fields.member? v key) ∧
      ∀ d, members.lookup key = some d → shape.Kept (some d) (fields.member? w key) := by
  induction members generalizing v with
  | nil =>
      obtain rfl := Except.ok.inj walked
      refine ⟨fun _ => rfl, fun d hd => ?_⟩
      cases hd
  | cons m rest ih =>
      obtain ⟨k, d⟩ := m
      obtain ⟨hfresh, hdifferent⟩ := List.nodup_cons.mp different
      rw [foldMembers_cons] at walked
      obtain ⟨u, hassign, hrest⟩ := Except.bind_eq_ok.mp walked
      obtain ⟨hnone, hsome⟩ := ih hdifferent hrest
      obtain ⟨hkept, hsame⟩ := member?_assign wf hassign
      rw [Dict.lookup_cons]
      by_cases hkey : key = k
      · subst hkey
        rw [if_pos rfl]
        refine ⟨fun habsent => ?_, fun d' hd' => ?_⟩
        · cases habsent
        · obtain rfl := Option.some.inj hd'
          rw [hnone (Dict.lookup_eq_none_iff.mpr hfresh)]
          exact hkept shape known
      · rw [if_neg hkey, ← hsame key hkey]
        exact ⟨hnone, hsome⟩

theorem kept_decodeItems : ∀ {fields : Fields}, fields.wellFormed = true →
    ∀ {items : List Document} {v : fields.Val}, fields.decodeItems items = .ok v →
      ∀ {key : String} {shape : Shape}, fields.shapeOf? key = some shape →
        shape.Kept ((fields.names.zip items).lookup key) (fields.member? v key)
  | .nil, _, _, _, _, _, _, known => nomatch known
  | .cons name shape rest, _, [], v, decoded, key, found, known => by
      obtain rfl := Except.ok.inj decoded
      rw [List.zip_nil_right, member?_absent]
      exact .absent
  | .cons name shape rest, wf, d :: items, v, decoded, key, found, known => by
      obtain ⟨fresh, -, wf⟩ := wellFormed_cons.mp wf
      rw [decodeItems_cons] at decoded
      obtain ⟨x, hmember, hitems⟩ := Except.bind_eq_ok.mp decoded
      obtain ⟨others, hrest, rfl⟩ := Except.map_eq_ok.mp hitems
      rw [names, List.zip_cons_cons, Dict.lookup_cons]
      rw [shapeOf?] at known
      by_cases hkey : key = name
      · subst hkey
        rw [if_pos rfl] at known ⊢
        obtain rfl := Option.some.inj known
        rw [member?_cons_self fresh]
        exact Shape.kept_of_decodeMember hmember
      · rw [if_neg hkey] at known ⊢
        rw [member?_cons_other hkey]
        exact kept_decodeItems wf hrest known

end Fields

/-- What a record keeps of each of its members. -/
theorem Shape.kept_member {name : String} {fields : Fields} (wf : fields.wellFormed = true)
    {d : Document} {v : fields.Val} (decoded : (Shape.record name fields).decode d = .ok v)
    {key : String} {shape : Shape} (known : fields.shapeOf? key = some shape) :
    shape.Kept (fields.given? d key) (fields.member? v key) := by
  rw [Shape.decode] at decoded
  rw [Fields.given?]
  cases hview : d.view with
  | object members =>
      rw [hview] at decoded
      obtain ⟨hnone, hsome⟩ :=
        Fields.member?_foldMembers wf known members.nodup_keys decoded
      show shape.Kept (members.entries.lookup key) _
      cases hfound : members.entries.lookup key with
      | none =>
          rw [hnone hfound, Fields.member?_absent]
          exact .absent
      | some d' => exact hsome d' hfound
  | array items =>
      rw [hview] at decoded
      cases hitems : fields.decodeItems items with
      | error fault =>
          simp only [hitems] at decoded
          exact nomatch decoded
      | ok w =>
          simp only [hitems] at decoded
          split at decoded
          · obtain rfl := Except.ok.inj decoded
            exact Fields.kept_decodeItems wf hitems known
          · exact nomatch decoded
  | null | bool _ | word _ | double _ | text _ =>
      rw [hview] at decoded
      exact nomatch decoded

end DeviceLink
