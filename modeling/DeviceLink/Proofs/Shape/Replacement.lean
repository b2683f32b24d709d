import DeviceLink.Proofs.Shape.Positional

/-!
# Other values in a place

A part of a document is reached through members of records, items of lists and
entries of dictionaries, and the records on the way may be written either way.
`Shape.replaceAt` puts another value where a path leads.  How the document is read
depends on the value there only through what is read of it
(`Shape.readsLike_replaceAt`): each shape reads its parts one by one, and no part
minds what stands beside it.
-/

namespace DeviceLink

/-! ## One part among others -/

section Parts

variable {α β : Type} {condition : Prop}

/-- Only what becomes of one item depends on that item. -/
theorem forall₂_replace {R : α → β → Prop} {a a' : α}
    (alike : ∀ b, R a b ↔ condition ∧ R a' b) (before after : List α) (l : List β) :
    List.Forall₂ R (before ++ a :: after) l ↔
      condition ∧ List.Forall₂ R (before ++ a' :: after) l := by
  induction before generalizing l with
  | nil =>
      cases l with
      | nil => simp
      | cons b rest => simp [alike, and_assoc]
  | cons first before ih =>
      cases l with
      | nil => simp
      | cons b rest => simp [ih, and_left_comm]

theorem decodeEach_eq_ok_iff {f : Document → Except Fault α} {items : List Document}
    {xs : List α} :
    decodeEach f items = .ok xs ↔ List.Forall₂ (fun d x => f d = .ok x) items xs := by
  induction items generalizing xs with
  | nil => simp [decodeEach, eq_comm]
  | cons d rest ih =>
      rw [decodeEach_cons, Except.bind_eq_ok]
      simp only [Except.map_eq_ok, ih]
      constructor
      · rintro ⟨x, hx, others, hothers, rfl⟩
        exact .cons hx hothers
      · rintro (_ | ⟨hx, hothers⟩)
        exact ⟨_, hx, _, hothers, rfl⟩

/-- What stands around an item does not depend on it. -/
theorem exists_split_of_getElem? {items : List α} {index : Nat} {a : α}
    (found : items[index]? = some a) :
    ∃ before after, before.length = index ∧ items = before ++ a :: after ∧
      ∀ other, items.set index other = before ++ other :: after := by
  obtain ⟨hindex, rfl⟩ := List.getElem?_eq_some_iff.mp found
  refine ⟨items.take index, items.drop (index + 1), ?_, ?_, fun other => ?_⟩
  · rw [List.length_take, Nat.min_eq_left hindex.le]
  · rw [← List.drop_eq_getElem_cons hindex, List.take_append_drop]
  · rw [List.set_eq_take_append_cons_drop, if_pos hindex]

/-- What is found under a name among paired items stands where the name does. -/
theorem getElem?_of_lookup_zip {key : String} {a : α} :
    ∀ {names : List String} {items : List α}, (names.zip items).lookup key = some a →
      items[names.idxOf key]? = some a
  | [], _, found => nomatch found
  | _ :: _, [], found => nomatch found
  | name :: names, b :: items, found => by
      rw [List.zip_cons_cons, Dict.lookup_cons] at found
      by_cases hkey : key = name
      · rw [if_pos hkey] at found
        rw [hkey, List.idxOf_cons_self]
        exact found
      · rw [if_neg hkey] at found
        rw [List.idxOf_cons_ne _ (Ne.symm hkey)]
        exact getElem?_of_lookup_zip found

end Parts

/-! ## Another value in a place -/

def Document.replacePart (d : Document) (step : PathStep) (x : Document) : Document :=
  match step, d.view with
  | .member key, .object members => .object (members.insert key x)
  | .item index, .array items => .array (items.set index x)
  | _, _ => d

theorem Document.replacePart_item {d x : Document} {items : List Document} {index : Nat}
    (view : d.view = .array items) :
    d.replacePart (.item index) x = .array (items.set index x) := by
  simp [replacePart, view]

theorem Document.replacePart_member {d x : Document} {members : Dict Document} {key : String}
    (view : d.view = .object members) :
    d.replacePart (.member key) x = .object (members.insert key x) := by
  simp [replacePart, view]

theorem Document.view_replacePart_ne_null {d x : Document} {step : PathStep}
    (present : d.view ≠ .null) : (d.replacePart step x).view ≠ .null := by
  unfold replacePart
  split
  · simp
  · simp
  · exact present

theorem Document.view_replacePart_object {d x : Document} {step : PathStep}
    {members : Dict Document} (object : d.view = .object members) :
    ∃ members, (d.replacePart step x).view = .object members := by
  cases step with
  | member key => exact ⟨_, by rw [replacePart_member object, view_object]⟩
  | item index => exact ⟨members, by simp [replacePart, object]⟩

def Fields.replaceGiven (fields : Fields) (d : Document) (key : String) (x : Document) :
    Document :=
  match d.view with
  | .object members => .object (members.insert key x)
  | .array items => .array (items.set (fields.names.idxOf key) x)
  | _ => d

theorem Fields.view_replaceGiven_ne_null {fields : Fields} {d x : Document} {key : String}
    (present : d.view ≠ .null) : (fields.replaceGiven d key x).view ≠ .null := by
  unfold replaceGiven
  split
  · simp
  · simp
  · exact present

theorem Fields.view_replaceGiven_object {fields : Fields} {d x : Document} {key : String}
    {members : Dict Document} (object : d.view = .object members) :
    ∃ members, (fields.replaceGiven d key x).view = .object members := by
  simp [replaceGiven, object]

namespace Shape

def replacePart : Shape → Document → PathStep → Document → Document
  | .record _ fields, d, .member key, x => fields.replaceGiven d key x
  | _, d, step, x => d.replacePart step x

/-- The document with another value at the end of a path along which values are
declared and given. -/
def replaceAt (shape : Shape) (d : Document) : List PathStep → Document → Document
  | [], x => x
  | step :: rest, x =>
    match shape.part? step, shape.given? d step with
    | some part, some value => shape.replacePart d step (part.replaceAt value rest x)
    | _, _ => d

/-- A document is read as another one is if a condition holds, and not at all
otherwise. -/
def ReadsLike (shape : Shape) (condition : Prop) (d d' : Document) : Prop :=
  ∀ v, shape.decode d = .ok v ↔ condition ∧ shape.decode d' = .ok v

end Shape

/-! ## What is read depends on what is read in a place -/

section Parts

variable {name key : String} {fields : Fields} {part shape : Shape} {condition : Prop}
  {d d' x x' : Document} {given given' : String → Option Document}

theorem Fields.reads_replace
    (alike : ∀ u, part.Reads (some x) u ↔ condition ∧ part.Reads (some x') u)
    (here : given key = some x) (here' : given' key = some x')
    (elsewhere : ∀ other, other ≠ key → given other = given' other) :
    ∀ {fields : Fields}, fields.wellFormed = true → fields.shapeOf? key = some part →
      ∀ {v : fields.Val}, fields.Reads given v ↔ condition ∧ fields.Reads given' v
  | .cons name shape rest, wf, known, (v, others) => by
      obtain ⟨fresh, -, wf⟩ := Fields.wellFormed_cons.mp wf
      rw [Fields.shapeOf?] at known
      rw [Fields.Reads, Fields.Reads]
      by_cases hkey : key = name
      · subst hkey
        rw [if_pos rfl] at known
        obtain rfl := Option.some.inj known
        have hrest : rest.Reads given others ↔ rest.Reads given' others :=
          Fields.reads_congr fun other hother =>
            elsewhere other fun h : other = key => fresh (h ▸ hother)
        rw [here, here', alike, hrest, and_assoc]
      · rw [if_neg hkey] at known
        rw [elsewhere name (Ne.symm hkey), and_left_comm,
          Fields.reads_replace alike here here' elsewhere wf known]

namespace Shape

/-- Two records that differ in what they give for one member. -/
theorem record_readsLike (wf : fields.wellFormed = true)
    (known : fields.shapeOf? key = some part) {before after : List (String × Document)}
    (fresh : key ∉ before.map (·.1))
    (gives : ∀ other, fields.given? d other = (before ++ (key, x) :: after).lookup other)
    (gives' : ∀ other, fields.given? d' other = (before ++ (key, x') :: after).lookup other)
    (written : fields.IsWritten d ↔ fields.IsWritten d') (alike : part.ReadsLike condition x x')
    (present : x.view ≠ .null) (present' : x'.view ≠ .null) :
    (Shape.record name fields).ReadsLike condition d d' := by
  intro v
  have hmember : ∀ u, part.Reads (some x) u ↔ condition ∧ part.Reads (some x') u := by
    intro u
    rw [reads_iff_of_not_null present, reads_iff_of_not_null present']
    simp only [alike _, exists_and_left, and_left_comm]
  have hhere : fields.given? d key = some x := by
    rw [gives, Dict.lookup_middle fresh, if_pos rfl]
  have hhere' : fields.given? d' key = some x' := by
    rw [gives', Dict.lookup_middle fresh, if_pos rfl]
  have helsewhere : ∀ other, other ≠ key → fields.given? d other = fields.given? d' other := by
    intro other hother
    rw [gives, gives', Dict.lookup_middle fresh, Dict.lookup_middle fresh, if_neg hother,
      if_neg hother]
  have hreads : fields.Reads (fields.given? d) v ↔
      condition ∧ fields.Reads (fields.given? d') v :=
    Fields.reads_replace hmember hhere hhere' helsewhere wf known
  calc (Shape.record name fields).decode d = .ok v
    _ ↔ fields.IsWritten d ∧ fields.Reads (fields.given? d) v := decode_record_iff wf
    _ ↔ condition ∧ fields.IsWritten d' ∧ fields.Reads (fields.given? d') v :=
        (and_congr written hreads).trans and_left_comm
    _ ↔ condition ∧ (Shape.record name fields).decode d' = .ok v :=
        and_congr_right fun _ => (decode_record_iff wf).symm

theorem readsLike_insert (wf : fields.wellFormed = true)
    (known : fields.shapeOf? key = some part) {members : Dict Document}
    (object : d.view = .object members) (given : members.get? key = some x)
    (alike : part.ReadsLike condition x x') (present : x.view ≠ .null)
    (present' : x'.view ≠ .null) :
    (Shape.record name fields).ReadsLike condition d (.object (members.insert key x')) := by
  obtain ⟨before, after, hfresh, hentries, hinsert⟩ := Dict.exists_split_of_get? given
  have object' := Document.view_object (members.insert key x')
  have hgives : ∀ other, fields.given? d other = (before ++ (key, x) :: after).lookup other := by
    intro other
    rw [Fields.given?_of_object object, hentries]
  have hgives' : ∀ other, fields.given? (.object (members.insert key x')) other =
      (before ++ (key, x') :: after).lookup other := by
    intro other
    rw [Fields.given?_of_object object', hinsert x']
  have hwritten : fields.IsWritten d ↔ fields.IsWritten (.object (members.insert key x')) :=
    iff_of_true (Fields.isWritten_of_object object) (Fields.isWritten_of_object object')
  exact record_readsLike wf known hfresh hgives hgives' hwritten alike present present'

theorem readsLike_set (wf : fields.wellFormed = true)
    (known : fields.shapeOf? key = some part) {items : List Document}
    (array : d.view = .array items) (given : (fields.names.zip items).lookup key = some x)
    (alike : part.ReadsLike condition x x') (present : x.view ≠ .null)
    (present' : x'.view ≠ .null) :
    (Shape.record name fields).ReadsLike condition d
      (.array (items.set (fields.names.idxOf key) x')) := by
  obtain ⟨before, after, hlength, rfl, hset⟩ :=
    exists_split_of_getElem? (getElem?_of_lookup_zip given)
  -- The names are split where the items are.
  have hkey : fields.names[fields.names.idxOf key]? = some key :=
    List.getElem?_idxOf (Fields.mem_names_of_shapeOf? known)
  obtain ⟨names, names', hlength', hnames, -⟩ := exists_split_of_getElem? hkey
  have hfresh : key ∉ (names.zip before).map (·.1) := by
    have hdifferent := Fields.nodup_names wf
    rw [hnames, List.nodup_append'] at hdifferent
    intro hmem
    obtain ⟨e, he, rfl⟩ := List.mem_map.mp hmem
    exact hdifferent.2.2 (List.of_mem_zip he).1 List.mem_cons_self
  have hzip : ∀ x, fields.names.zip (before ++ x :: after) =
      names.zip before ++ (key, x) :: names'.zip after := by
    intro x
    conv_lhs => rw [hnames]
    rw [List.zip_append (hlength'.trans hlength.symm), List.zip_cons_cons]
  have array' := Document.view_array (before ++ x' :: after)
  have hgives : ∀ other, fields.given? d other =
      (names.zip before ++ (key, x) :: names'.zip after).lookup other := by
    intro other
    rw [Fields.given?_of_array array, hzip]
  have hgives' : ∀ other, fields.given? (.array (before ++ x' :: after)) other =
      (names.zip before ++ (key, x') :: names'.zip after).lookup other := by
    intro other
    rw [Fields.given?_of_array array', hzip]
  have hwritten : fields.IsWritten d ↔ fields.IsWritten (.array (before ++ x' :: after)) := by
    rw [Fields.isWritten_iff_of_array array, Fields.isWritten_iff_of_array array']
    simp
  rw [hset]
  exact record_readsLike wf known hfresh hgives hgives' hwritten alike present present'

theorem readsLike_replaceGiven (wf : fields.wellFormed = true)
    (known : fields.shapeOf? key = some part) (given : fields.given? d key = some x)
    (alike : part.ReadsLike condition x x') (present : x.view ≠ .null)
    (present' : x'.view ≠ .null) :
    (Shape.record name fields).ReadsLike condition d (fields.replaceGiven d key x') := by
  rw [Fields.replaceGiven]
  rw [Fields.given?] at given
  cases hview : d.view with
  | object members =>
      rw [hview] at given
      exact readsLike_insert wf known hview given alike present present'
  | array items =>
      rw [hview] at given
      exact readsLike_set wf known hview given alike present present'
  | null | bool _ | word _ | double _ | text _ =>
      rw [hview] at given
      cases given

theorem decode_list_iff {items : List Document} (view : d.view = .array items)
    {v : List part.Val} :
    (Shape.list part).decode d = .ok v ↔
      List.Forall₂ (fun d x => part.decode d = .ok x) items v := by
  rw [decode, view]
  exact decodeEach_eq_ok_iff

theorem readsLike_replaceItem {index : Nat} (given : d.part? (.item index) = some x)
    (alike : part.ReadsLike condition x x') :
    (Shape.list part).ReadsLike condition d (d.replacePart (.item index) x') := by
  intro v
  rw [Document.part?] at given
  cases hview : d.view with
  | array items =>
      rw [hview] at given
      obtain ⟨before, after, -, rfl, hset⟩ := exists_split_of_getElem? given
      have hview' : (d.replacePart (.item index) x').view = .array (before ++ x' :: after) := by
        rw [Document.replacePart_item hview, Document.view_array, hset]
      have hreplace :
          List.Forall₂ (fun d u => part.decode d = .ok u) (before ++ x :: after) v ↔
            condition ∧
              List.Forall₂ (fun d u => part.decode d = .ok u) (before ++ x' :: after) v :=
        forall₂_replace (fun u => alike u) before after v
      exact (decode_list_iff hview).trans (hreplace.trans
        (and_congr_right fun _ => (decode_list_iff hview').symm))
  | null | bool _ | word _ | double _ | text _ | object _ =>
      rw [hview] at given
      cases given

theorem decode_dict_iff {members : Dict Document} (view : d.view = .object members)
    {v : Dict part.Val} :
    (Shape.dict part).decode d = .ok v ↔
      List.Forall₂ (fun a b => a.1 = b.1 ∧ part.decode a.2 = .ok b.2) members.entries
        v.entries := by
  rw [decode, view]
  exact Dict.tryMap_eq_ok_iff

theorem readsLike_replaceEntry (given : d.part? (.member key) = some x)
    (alike : part.ReadsLike condition x x') :
    (Shape.dict part).ReadsLike condition d (d.replacePart (.member key) x') := by
  intro v
  rw [Document.part?] at given
  cases hview : d.view with
  | object members =>
      rw [hview] at given
      obtain ⟨before, after, -, hentries, hinsert⟩ := Dict.exists_split_of_get? given
      have hentry : ∀ b : String × part.Val, (key = b.1 ∧ part.decode x = .ok b.2) ↔
          condition ∧ key = b.1 ∧ part.decode x' = .ok b.2 := by
        intro b
        rw [alike b.2, and_left_comm]
      have hview' : (d.replacePart (.member key) x').view = .object (members.insert key x') := by
        rw [Document.replacePart_member hview, Document.view_object]
      have hreplace :
          List.Forall₂ (fun a b => a.1 = b.1 ∧ part.decode a.2 = .ok b.2) members.entries
              v.entries ↔
            condition ∧ List.Forall₂ (fun a b => a.1 = b.1 ∧ part.decode a.2 = .ok b.2)
              (members.insert key x').entries v.entries := by
        rw [hentries, hinsert x']
        exact forall₂_replace hentry before after v.entries
      exact (decode_dict_iff hview).trans (hreplace.trans
        (and_congr_right fun _ => (decode_dict_iff hview').symm))
  | null | bool _ | word _ | double _ | text _ | array _ =>
      rw [hview] at given
      cases given

/-- What is read of a document depends on each part only through what is read there. -/
theorem readsLike_replacePart {step : PathStep} (wf : shape.wellFormed = true)
    (declared : shape.part? step = some part) (given : shape.given? d step = some x)
    (alike : part.ReadsLike condition x x') (present : x.view ≠ .null)
    (present' : x'.view ≠ .null) :
    shape.ReadsLike condition d (shape.replacePart d step x') := by
  cases shape with
  | record name fields =>
      cases step with
      | member key => exact readsLike_replaceGiven wf declared given alike present present'
      | item index => exact nomatch declared
  | list item =>
      cases step with
      | member key => exact nomatch declared
      | item index =>
          obtain rfl := Option.some.inj declared
          exact readsLike_replaceItem given alike
  | dict value =>
      cases step with
      | member key =>
          obtain rfl := Option.some.inj declared
          exact readsLike_replaceEntry given alike
      | item index => exact nomatch declared
  | text | flag | int32 | int64 | time | status | errorCode | free => exact nomatch declared

/-! ## What is read depends on what is read at the end of a path -/

theorem view_replacePart_ne_null {step : PathStep} (present : d.view ≠ .null) :
    (shape.replacePart d step x).view ≠ .null := by
  unfold replacePart
  split
  · exact Fields.view_replaceGiven_ne_null present
  · exact Document.view_replacePart_ne_null present

theorem view_replacePart_object {step : PathStep} {members : Dict Document}
    (object : d.view = .object members) :
    ∃ members, (shape.replacePart d step x).view = .object members := by
  unfold replacePart
  split
  · exact Fields.view_replaceGiven_object object
  · exact Document.view_replacePart_object object

theorem view_replaceAt_ne_null {path : List PathStep} (present : d.view ≠ .null)
    (present' : x.view ≠ .null) : (shape.replaceAt d path x).view ≠ .null := by
  cases path with
  | nil => exact present'
  | cons step rest =>
      rw [replaceAt]
      split
      · exact view_replacePart_ne_null present
      · exact present

theorem view_replaceAt_object {path : List PathStep} {members : Dict Document}
    (object : d.view = .object members) (below : path ≠ []) :
    ∃ members, (shape.replaceAt d path x).view = .object members := by
  cases path with
  | nil => exact absurd rfl below
  | cons step rest =>
      rw [replaceAt]
      split
      · exact view_replacePart_object object
      · exact ⟨members, object⟩

theorem view_ne_null_of_valueAt? {path : List PathStep} (given : shape.valueAt? d path = some x)
    (present : x.view ≠ .null) : d.view ≠ .null := by
  cases path with
  | nil => exact Option.some.inj given ▸ present
  | cons step rest =>
      intro hnull
      rw [valueAt?, given?_of_null shape hnull step] at given
      cases given

theorem readsLike_replaceAt {path : List PathStep} (wf : shape.wellFormed = true)
    (declared : shape.at? path = some part) (given : shape.valueAt? d path = some x)
    (alike : part.ReadsLike condition x x') (present : x.view ≠ .null)
    (present' : x'.view ≠ .null) : shape.ReadsLike condition d (shape.replaceAt d path x') := by
  induction path generalizing shape d with
  | nil =>
      obtain rfl := Option.some.inj declared
      obtain rfl := Option.some.inj given
      exact alike
  | cons step rest ih =>
      obtain ⟨mid, hmid, hrest⟩ := Option.bind_eq_some_iff.mp declared
      rw [valueAt?, hmid] at given
      obtain ⟨value, hvalue, hbelow⟩ := Option.bind_eq_some_iff.mp given
      have hreplace : shape.replaceAt d (step :: rest) x' =
          shape.replacePart d step (mid.replaceAt value rest x') := by
        rw [replaceAt, hmid, hvalue]
      have hpresent := view_ne_null_of_valueAt? hbelow present
      rw [hreplace]
      exact readsLike_replacePart wf hmid hvalue (ih (wellFormed_part wf hmid) hrest hbelow)
        hpresent (view_replaceAt_ne_null hpresent present')

end Shape

end Parts

end DeviceLink
