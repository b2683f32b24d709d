import DeviceLink.Proofs.Shape.Place

/-!
# Records by name and by position

A record may be read from an object or, inside another value, from an array.  The
two walks have little in common: one goes through the members of the document by key,
the other through the members of the shape as they are declared.  Both come to the
same: each declared member is read from what the document gives for it
(`Fields.Reads`), by name or by position, and no member minds what is given for the
others (`Shape.decode_record_iff`).
-/

namespace DeviceLink

/-! ## Members on their own -/

/-- What is read for a member from what a document gives for it. -/
inductive Shape.Reads (shape : Shape) : Option Document → Option shape.Val → Prop
  | absent : Reads shape none none
  /-- A null leaves a member out, unless it is a free document. -/
  | omitted {d : Document} (null : d.view = .null) (ordinary : shape.keepsNull = false) :
      Reads shape (some d) none
  | value {d : Document} {v : shape.Val} (decoded : shape.decode d = .ok v) :
      Reads shape (some d) (some v)

/-- Every member is read from what is given for it. -/
def Fields.Reads : (fields : Fields) → (String → Option Document) → fields.Val → Prop
  | .nil, _, _ => True
  | .cons name shape rest, given, (v, others) =>
    shape.Reads (given name) v ∧ rest.Reads given others

namespace Shape

variable {shape : Shape} {d : Document}

theorem reads_none_iff {v : Option shape.Val} : shape.Reads none v ↔ v = none := by
  constructor
  · rintro ⟨⟩
    rfl
  · rintro rfl
    exact .absent

theorem reads_some_iff {v : Option shape.Val} :
    shape.Reads (some d) v ↔ shape.decodeMember d = .ok v := by
  rw [decodeMember]
  constructor
  · intro hreads
    cases hreads with
    | omitted hnull hordinary => rw [if_pos (isOmission_eq_true.mpr ⟨hnull, hordinary⟩)]
    | value hdecode =>
        rw [isOmission_of_decode hdecode, hdecode]
        rfl
  · intro hmember
    split at hmember
    · next homission =>
        obtain ⟨hnull, hordinary⟩ := isOmission_eq_true.mp homission
        exact Except.ok.inj hmember ▸ .omitted hnull hordinary
    · obtain ⟨w, hdecode, rfl⟩ := Except.map_eq_ok.mp hmember
      exact .value hdecode

/-- What is not null is read as a value. -/
theorem reads_iff_of_not_null {v : Option shape.Val} (given : d.view ≠ .null) :
    shape.Reads (some d) v ↔ ∃ w, v = some w ∧ shape.decode d = .ok w := by
  constructor
  · intro hreads
    cases hreads with
    | omitted hnull _ => exact absurd hnull given
    | value hdecode => exact ⟨_, rfl, hdecode⟩
  · rintro ⟨w, rfl, hdecode⟩
    exact .value hdecode

end Shape

namespace Fields

variable {given given' : String → Option Document}

theorem reads_congr : ∀ {fields : Fields} {v : fields.Val},
    (∀ name ∈ fields.names, given name = given' name) →
      (fields.Reads given v ↔ fields.Reads given' v)
  | .nil, _, _ => Iff.rfl
  | .cons name shape rest, (v, others), same => by
      obtain ⟨hname, hrest⟩ := List.forall_mem_cons.mp same
      rw [Reads, Reads, hname, reads_congr hrest]

theorem reads_nothing_iff : ∀ {fields : Fields} {v : fields.Val},
    fields.Reads (fun _ => none) v ↔ v = fields.absent
  | .nil, _ => ⟨fun _ => rfl, fun _ => trivial⟩
  | .cons name shape rest, (v, others) => by
      rw [Reads, Shape.reads_none_iff, reads_nothing_iff]
      exact Prod.mk_inj.symm

/-! ## An array is read member by member -/

theorem decodeItems_eq_ok_iff : ∀ {fields : Fields}, fields.wellFormed = true →
    ∀ {items : List Document} {v : fields.Val}, fields.decodeItems items = .ok v ↔
      fields.Reads (fun key => (fields.names.zip items).lookup key) v
  | .nil, _, _, _ => by
      rw [decodeItems]
      exact iff_of_true rfl trivial
  | .cons name shape rest, _, [], v => by
      rw [decodeItems, List.zip_nil_right, Except.ok.injEq, eq_comm]
      exact reads_nothing_iff.symm
      all_goals nofun
  | .cons name shape rest, wf, d :: items, (v, others) => by
      obtain ⟨fresh, -, wf⟩ := wellFormed_cons.mp wf
      have hself : ((name :: rest.names).zip (d :: items)).lookup name = some d := by
        rw [List.zip_cons_cons, Dict.lookup_cons, if_pos rfl]
      have hrest : rest.Reads (fun key => ((name :: rest.names).zip (d :: items)).lookup key)
          others ↔ rest.decodeItems items = .ok others := by
        rw [decodeItems_eq_ok_iff wf]
        apply reads_congr
        intro key hkey
        have hother : key ≠ name := fun h => fresh (h ▸ hkey)
        rw [List.zip_cons_cons, Dict.lookup_cons, if_neg hother]
      rw [decodeItems_cons, names, Reads, hrest, hself, Shape.reads_some_iff]
      constructor
      · intro hdecoded
        obtain ⟨w, hmember, hitems⟩ := Except.bind_eq_ok.mp hdecoded
        obtain ⟨others', hothers, hsame⟩ := Except.map_eq_ok.mp hitems
        obtain ⟨rfl, rfl⟩ := Prod.mk.inj hsame
        exact ⟨hmember, hothers⟩
      · rintro ⟨hmember, hothers⟩
        exact Except.bind_eq_ok.mpr ⟨v, hmember, Except.map_eq_ok.mpr ⟨others, hothers, rfl⟩⟩

/-! ## An object is read member by member -/

/-- The members that are given replace what was read before; the others stay. -/
def Updates : (fields : Fields) → (String → Option Document) → fields.Val → fields.Val → Prop
  | .nil, _, _, _ => True
  | .cons name shape rest, given, (v, others), (w, others') =>
    ((given name).elim (w = v) fun d => shape.decodeMember d = .ok w) ∧
      rest.Updates given others others'

theorem updates_congr : ∀ {fields : Fields} {v w : fields.Val},
    (∀ name ∈ fields.names, given name = given' name) →
      (fields.Updates given v w ↔ fields.Updates given' v w)
  | .nil, _, _, _ => Iff.rfl
  | .cons name shape rest, (v, others), (w, others'), same => by
      obtain ⟨hname, hrest⟩ := List.forall_mem_cons.mp same
      rw [Updates, Updates, hname, updates_congr hrest]

theorem updates_nothing_iff : ∀ {fields : Fields} {v w : fields.Val},
    fields.Updates (fun _ => none) v w ↔ v = w
  | .nil, _, _ => ⟨fun _ => rfl, fun _ => trivial⟩
  | .cons name shape rest, (v, others), (w, others') => by
      rw [Updates, Option.elim_none, updates_nothing_iff, eq_comm (a := w)]
      exact Prod.mk_inj.symm

/-- Where nothing was read before, what is given is all that is read. -/
theorem updates_absent_iff : ∀ {fields : Fields} {w : fields.Val},
    fields.Updates given fields.absent w ↔ fields.Reads given w
  | .nil, _ => Iff.rfl
  | .cons name shape rest, (w, others) => by
      rw [absent, Updates, Reads, updates_absent_iff]
      cases given name with
      | none => rw [Option.elim_none, Shape.reads_none_iff]
      | some d => rw [Option.elim_some, Shape.reads_some_iff]

/-- One more member is put into its place before the others or together with them. -/
theorem updates_insert_iff {key : String} {d : Document} (fresh : given key = none) :
    ∀ {fields : Fields}, fields.wellFormed = true → ∀ {v w : fields.Val},
      (∃ u, fields.assign key d v = .ok u ∧ fields.Updates given u w) ↔
        fields.Updates (fun name => if name = key then some d else given name) v w
  | .nil, _, v, _ => ⟨fun _ => trivial, fun _ => ⟨v, rfl, trivial⟩⟩
  | .cons name shape rest, wf, (v, others), (w, others') => by
      obtain ⟨freshName, -, wf⟩ := wellFormed_cons.mp wf
      rw [Updates]
      by_cases hkey : key = name
      · subst hkey
        have hrest : rest.Updates (fun name => if name = key then some d else given name)
            others others' ↔ rest.Updates given others others' :=
          updates_congr fun other hother => if_neg fun h : other = key => freshName (h ▸ hother)
        rw [assign_self, if_pos rfl, Option.elim_some, hrest]
        constructor
        · rintro ⟨u, hassign, hupdates⟩
          obtain ⟨x, hmember, rfl⟩ := Except.map_eq_ok.mp hassign
          rw [Updates, fresh, Option.elim_none] at hupdates
          exact ⟨hupdates.1 ▸ hmember, hupdates.2⟩
        · rintro ⟨hmember, hothers⟩
          refine ⟨(w, others), Except.map_eq_ok.mpr ⟨w, hmember, rfl⟩, ?_⟩
          rw [Updates, fresh, Option.elim_none]
          exact ⟨rfl, hothers⟩
      · rw [assign_other hkey, if_neg (Ne.symm hkey), ← updates_insert_iff fresh wf]
        constructor
        · rintro ⟨u, hassign, hupdates⟩
          obtain ⟨x, hrest, rfl⟩ := Except.map_eq_ok.mp hassign
          exact ⟨hupdates.1, x, hrest, hupdates.2⟩
        · rintro ⟨hmember, x, hrest, hothers⟩
          exact ⟨(v, x), Except.map_eq_ok.mpr ⟨x, hrest, rfl⟩, hmember, hothers⟩

theorem foldMembers_eq_ok_iff {fields : Fields} (wf : fields.wellFormed = true)
    {members : List (String × Document)} (different : (members.map (·.1)).Nodup)
    {v w : fields.Val} :
    foldMembers (fun v key d => fields.assign key d v) v members = .ok w ↔
      fields.Updates (fun key => members.lookup key) v w := by
  induction members generalizing v with
  | nil => exact (Iff.of_eq (Except.ok.injEq v w)).trans updates_nothing_iff.symm
  | cons m rest ih =>
      obtain ⟨key, d⟩ := m
      obtain ⟨hfresh, hdifferent⟩ := List.nodup_cons.mp different
      have hnone : rest.lookup key = none := Dict.lookup_eq_none_iff.mpr hfresh
      simp only [foldMembers_cons, Except.bind_eq_ok, ih hdifferent, Dict.lookup_cons]
      exact updates_insert_iff hnone wf

/-! ## Both -/

variable {fields : Fields} {d : Document}

/-- Being written as a record: as an object, or as an array without surplus items. -/
def IsWritten (fields : Fields) (d : Document) : Prop :=
  (∃ members, d.view = .object members) ∨
    ∃ items, d.view = .array items ∧ items.length ≤ fields.names.length

theorem isWritten_of_object {members : Dict Document} (object : d.view = .object members) :
    fields.IsWritten d :=
  .inl ⟨members, object⟩

theorem isWritten_iff_of_array {items : List Document} (array : d.view = .array items) :
    fields.IsWritten d ↔ items.length ≤ fields.names.length := by
  simp [IsWritten, array]

theorem given?_of_object {members : Dict Document} (object : d.view = .object members) :
    fields.given? d = fun key => members.entries.lookup key := by
  funext key
  rw [given?, object]
  rfl

theorem given?_of_array {items : List Document} (array : d.view = .array items) :
    fields.given? d = fun key => (fields.names.zip items).lookup key := by
  funext key
  rw [given?, array]

end Fields

/-- A record is read member by member, whichever way it is written. -/
theorem Shape.decode_record_iff {name : String} {fields : Fields} (wf : fields.wellFormed = true)
    {d : Document} {v : fields.Val} : (Shape.record name fields).decode d = .ok v ↔
      fields.IsWritten d ∧ fields.Reads (fields.given? d) v := by
  rw [Shape.decode]
  cases hview : d.view with
  | object members =>
      rw [Fields.given?_of_object hview, ← Fields.updates_absent_iff,
        ← Fields.foldMembers_eq_ok_iff wf members.nodup_keys,
        and_iff_right (Fields.isWritten_of_object hview)]
      rfl
  | array items =>
      rw [Fields.given?_of_array hview, Fields.isWritten_iff_of_array hview,
        ← Fields.decodeItems_eq_ok_iff wf]
      cases hitems : fields.decodeItems items with
      | error fault => simp [hitems]
      | ok w =>
          by_cases hlength : items.length ≤ fields.names.length
          · simp only [hitems, if_pos hlength, and_iff_right hlength]
            exact Iff.rfl
          · simp [hitems, hlength]
  | null | bool _ | word _ | double _ | text _ =>
      simp [Fields.IsWritten, hview]

end DeviceLink
