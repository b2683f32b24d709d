import DeviceLink.Proofs.Document.Reading
import DeviceLink.Proofs.Shape.Models

/-!
# What the bytes of a payload say is what they were written from

Apart from its free documents a value writes only texts, truth values and words,
so a double stands in its document only if one stands in a free document.  The
bytes of every other value are read back, no matter in which order the members
were written.
-/

namespace DeviceLink

mutual

def Shape.freeDocuments : (shape : Shape) → shape.Val → List Document
  | .free, d => [d]
  | .record _ fields, v => fields.freeDocuments v
  | .list item, xs => List.flatMap item.freeDocuments xs
  | .dict value, xs => xs.entries.flatMap fun e => value.freeDocuments e.2
  | _, _ => []

def Fields.freeDocuments : (fields : Fields) → fields.Val → List Document
  | .nil, _ => []
  | .cons _ shape rest, (v, others) =>
    v.toList.flatMap shape.freeDocuments ++ rest.freeDocuments others

end

mutual

theorem Shape.doubleFree_encode : ∀ (shape : Shape), shape.wellFormed = true →
    ∀ v : shape.Val, (∀ d ∈ shape.freeDocuments v, d.DoubleFree) → (shape.encode v).DoubleFree
  | .text, _, _, _ => trivial
  | .flag, _, _, _ => trivial
  | .int32, _, _, _ => trivial
  | .int64, _, _, _ => trivial
  | .time, _, _, _ => trivial
  | .status, _, _, _ => trivial
  | .errorCode, _, _, _ => trivial
  | .free, _, d, single => single d List.mem_cons_self
  | .record name fields, wf, v, single => by
      apply Document.doubleFree_object.mpr
      intro e he
      exact Fields.doubleFree_encodeMembers fields wf v single e
        ((Fields.members_perm wf v).mem_iff.mp he)
  | .list item, wf, xs, single => by
      apply Document.doubleFree_array.mpr
      intro d hd
      obtain ⟨x, hx, rfl⟩ := List.mem_map.mp hd
      apply item.doubleFree_encode wf x
      intro d hd
      exact single d (List.mem_flatMap.mpr ⟨x, hx, hd⟩)
  | .dict value, wf, xs, single => by
      apply Document.doubleFree_object.mpr
      intro m hm
      obtain ⟨e, he, rfl⟩ := List.mem_map.mp hm
      apply value.doubleFree_encode wf e.2
      intro d hd
      exact single d (List.mem_flatMap.mpr ⟨e, he, hd⟩)

theorem Fields.doubleFree_encodeMembers : ∀ (fields : Fields), fields.wellFormed = true →
    ∀ v : fields.Val, (∀ d ∈ fields.freeDocuments v, d.DoubleFree) →
      ∀ e ∈ fields.encodeMembers v, e.2.DoubleFree
  | .nil, _, _, _, _, he => nomatch he
  | .cons name shape rest, wf, (none, others), single, e, he => by
      obtain ⟨-, -, wf⟩ := Fields.wellFormed_cons.mp wf
      exact rest.doubleFree_encodeMembers wf others single e he
  | .cons name shape rest, wf, (some v, others), single, e, he => by
      obtain ⟨-, wfShape, wf⟩ := Fields.wellFormed_cons.mp wf
      have hsplit : (Fields.cons name shape rest).freeDocuments (some v, others) =
          shape.freeDocuments v ++ rest.freeDocuments others := by
        rw [Fields.freeDocuments, Option.toList_some, List.flatMap_singleton]
      rw [hsplit] at single
      obtain ⟨hv, hothers⟩ := List.forall_mem_append.mp single
      rcases List.mem_cons.mp he with rfl | he
      · exact shape.doubleFree_encode wfShape v hv
      · exact rest.doubleFree_encodeMembers wf others hothers e he

end

namespace Model

/-- The bytes that are written for a value are read back as the same body with an
address that binds no parameter, and so is every other spelling of its document.
No text in the value is excepted, whatever its characters; only doubles and
documents that nest deeper than the reader goes are. -/
theorem payload_round_trip (m : Model) (x : m.Value)
    (single : ∀ d ∈ (Payload.shape m.Body).freeDocuments (Payload.toVal x.body), d.DoubleFree)
    (shallow : x.toDocument.depth ≤ 127) :
    (∃ bytes, (Format.request m.Address m.Body).write x = .ok bytes ∧
        (Format.request m.Address m.Body).read bytes = .ok ⟨default, x.body⟩) ∧
      ∀ t : Tree, t.Spells x.toDocument →
        (Format.request m.Address m.Body).read (String.ofList t.write).toUTF8 =
          .ok ⟨default, x.body⟩ := by
  have hsingle : x.toDocument.DoubleFree :=
    (Payload.shape m.Body).doubleFree_encode m.wellFormed_shape (Payload.toVal x.body) single
  have hread : ∀ t : Tree, t.Spells x.toDocument →
      (Format.request m.Address m.Body).read (String.ofList t.write).toUTF8 =
        .ok ⟨default, x.body⟩ := by
    intro t spelled
    have hdocument : Document.ofPayload? (String.ofList t.write).toUTF8 = some x.toDocument := by
      rw [Document.ofPayload?_toUTF8]
      exact Document.ofText?_write spelled hsingle shallow
    have hbody := Payload.ofBytes_of_read m.wellFormed_shape hdocument
    simp only [Format.request, Format.payload, hbody]
    rfl
  refine ⟨⟨x.toDocument.toPayload, rfl, ?_⟩, hread⟩
  exact hread x.toDocument.tree (Tree.spells_mk _ x.toDocument.ordered)

/-- A request to clear the desired state, with characters that must be escaped
and integers at both ends of their range. -/
def clearing : Request ShadowAddress UpdateShadowRequest where
  address := .named "T" "S"
  body :=
    { clientToken := some "a\"\\/\n\x01é"
      state := some
        { desired := some .null
          reported := some (.array [.word ⟨-0x8000000000000000, by decide, by decide⟩,
            .word ⟨0xffffffffffffffff, by decide, by decide⟩, .array [], .ofMembers []]) }
      version := some Int64.minValue }

/-- What may be written for `clearing`: the members of each object from the last
to the first. -/
def clearingReversed : Tree :=
  .object [("version", .word ⟨-0x8000000000000000, by decide, by decide⟩),
    ("state", .object
      [("reported", .array [.word ⟨-0x8000000000000000, by decide, by decide⟩,
          .word ⟨0xffffffffffffffff, by decide, by decide⟩, .array [], .object []]),
        ("desired", .null)]),
    ("clientToken", .text "a\"\\/\n\x01é")]

theorem spells_clearingReversed : clearingReversed.Spells clearing.toDocument := by
  have hreported : Tree.SpellsItems
      [.word ⟨-0x8000000000000000, by decide, by decide⟩,
        .word ⟨0xffffffffffffffff, by decide, by decide⟩, .array [], .object []]
      [.word ⟨-0x8000000000000000, by decide, by decide⟩,
        .word ⟨0xffffffffffffffff, by decide, by decide⟩, .array [], .ofMembers []] :=
    .cons (.word _) (.cons (.word _) (.cons (.array .nil)
      (.cons (.object .nil (List.Perm.refl _)) .nil)))
  have horder := List.reverse_perm
    ((Payload.fields UpdateShadowRequest).encodeMembers (Payload.toVal clearing.body))
  have hdict := Fields.members_perm updateShadowRequest.wellFormed_shape
    (Payload.toVal clearing.body)
  exact .object (.cons (.word _) (.cons (.object (.cons (.array hreported) (.cons .null .nil))
    (List.Perm.swap _ _ _)) (.cons (.text _) .nil))) (horder.trans hdict.symm)

theorem clearing_survives :
    (∀ d ∈ (Payload.shape UpdateShadowRequest).freeDocuments (Payload.toVal clearing.body),
        d.DoubleFree) ∧
      clearing.toDocument.depth ≤ 127 ∧ clearingReversed.Spells clearing.toDocument ∧
      (∃ bytes, (Format.request ShadowAddress UpdateShadowRequest).write clearing = .ok bytes ∧
        (Format.request ShadowAddress UpdateShadowRequest).read bytes =
          .ok ⟨default, clearing.body⟩) ∧
      (Format.request ShadowAddress UpdateShadowRequest).read
          (String.ofList clearingReversed.write).toUTF8 =
        .ok ⟨default, clearing.body⟩ := by
  have hsingle : ∀ d ∈ (Payload.shape UpdateShadowRequest).freeDocuments
      (Payload.toVal clearing.body), d.DoubleFree := by
    intro d hd
    rcases List.mem_cons.mp hd with rfl | hd
    · exact trivial
    · obtain rfl := List.mem_singleton.mp hd
      exact ⟨trivial, trivial, trivial, trivial, trivial⟩
  have hshallow : clearing.toDocument.depth ≤ 127 := by decide
  obtain ⟨hbytes, hread⟩ := payload_round_trip .updateShadowRequest clearing hsingle hshallow
  exact ⟨hsingle, hshallow, spells_clearingReversed, hbytes, hread _ spells_clearingReversed⟩

end Model

end DeviceLink
