import DeviceLink.Shape.Payload

/-!
# The fault that is reported is the first one

A document may fail to fit a shape in many places.  `Shape.faults` lists them all
in reading order: the members of an object by key, those of a record written as
an array as they are declared, and what is inside a value where that value
stands.  Decoding stops at the first of them, and succeeds if there is none
(`Shape.faultOf_decode`).
-/

namespace DeviceLink

/-! ## The fault of a failure -/

section

variable {α β : Type}

def faultOf : Except Fault α → Option Fault
  | .ok _ => none
  | .error fault => some fault

@[simp] theorem faultOf_ok (a : α) : faultOf (.ok a) = none := rfl

@[simp] theorem faultOf_error (fault : Fault) :
    faultOf (.error fault : Except Fault α) = some fault := rfl

@[simp] theorem faultOf_map (f : α → β) (result : Except Fault α) :
    faultOf (result.map f) = faultOf result := by
  cases result <;> rfl

theorem faultOf_eq_none {result : Except Fault α} :
    faultOf result = none ↔ ∃ a, result = .ok a := by
  cases result <;> simp [faultOf]

theorem faultOf_eq_some {result : Except Fault α} {fault : Fault} :
    faultOf result = some fault ↔ result = .error fault := by
  cases result <;> simp [faultOf]

/-- A walk fails where its first step fails, whatever the values on the way are. -/
theorem faultOf_foldMembers {f : α → String → Document → Except Fault α}
    {faults : String → Document → List Fault}
    (step : ∀ a key d, faultOf (f a key d) = (faults key d).head?) (a : α)
    (members : List (String × Document)) :
    faultOf (foldMembers f a members) = (members.flatMap fun e => faults e.1 e.2).head? := by
  induction members generalizing a with
  | nil => rfl
  | cons m rest ih =>
      obtain ⟨key, d⟩ := m
      have hstep := step a key d
      rw [List.flatMap_cons, List.head?_append, foldMembers, ← hstep]
      cases f a key d with
      | error fault => rfl
      | ok b => exact ih b

theorem faultOf_decodeEach {f : Document → Except Fault α} {faults : Document → List Fault}
    (item : ∀ d, faultOf (f d) = (faults d).head?) (items : List Document) :
    faultOf (decodeEach f items) = (items.flatMap faults).head? := by
  induction items with
  | nil => rfl
  | cons d rest ih =>
      rw [List.flatMap_cons, List.head?_append, decodeEach, ← item d, ← ih]
      cases f d with
      | error fault => rfl
      | ok a => cases decodeEach f rest <;> rfl

theorem faultOf_tryMap {f : Document → Except Fault α} {faults : Document → List Fault}
    (value : ∀ d, faultOf (f d) = (faults d).head?) (members : Dict Document) :
    faultOf (members.tryMap f) = (members.entries.flatMap fun e => faults e.2).head? := by
  have hentries : ∀ entries : List (String × Document),
      faultOf (Dict.mapEntries f entries) = (entries.flatMap fun e => faults e.2).head? := by
    intro entries
    induction entries with
    | nil => rfl
    | cons m rest ih =>
        obtain ⟨key, d⟩ := m
        rw [List.flatMap_cons, List.head?_append, Dict.mapEntries, ← value d, ← ih]
        cases f d with
        | error fault => rfl
        | ok a => cases Dict.mapEntries f rest <;> rfl
  rw [Dict.tryMap, ← hentries]
  cases Dict.mapEntries f members.entries <;> rfl

end

/-! ## Everything that does not fit -/

def textFaults (d : Document) : List Fault :=
  match d.view with
  | .text _ => []
  | _ => [.wrongKind (Found.ofDocument d) .text]

def flagFaults (d : Document) : List Fault :=
  match d.view with
  | .bool _ => []
  | _ => [.wrongKind (Found.ofDocument d) .flag]

/-- An integer out of bounds is of the right kind, a double never is. -/
def integerFaults (expected : Expectation) (low high : Int) (d : Document) : List Fault :=
  match d.view with
  | .word n =>
    if low ≤ n.val ∧ n.val ≤ high then [] else [.wrongValue (.integer n.val) expected]
  | _ => [.wrongKind (Found.ofDocument d) expected]

/-- A number is one of seconds if a signed 64-bit word has them, a fraction apart. -/
def timeFaults (d : Document) : List Fault :=
  match d.view with
  | .word n =>
    if n.val < 0x8000000000000000 then []
    else [.wrongValue (Found.ofDocument d) .epochSeconds]
  | .double x =>
    if -0x8000000000000000 * (Double.grainsPerOne : Int) ≤ x.grains ∧
        x.grains < 0x8000000000000000 * (Double.grainsPerOne : Int) then []
    else [.wrongValue (Found.ofDocument d) .epochSeconds]
  | _ => [.wrongKind (Found.ofDocument d) .epochSeconds]

/-- A name may stand alone or as the one key of an object. -/
def nameFaults (d : Document) : List Fault :=
  match d.view with
  | .text _ => []
  | .object members =>
    match members.entries with
    | [(_, value)] =>
      match value.view with
      | .null => []
      | _ => [.wrongKind (Found.ofDocument value) .unit]
    | _ => [.wrongValue .map .singleKeyMap]
  | _ => [.wrongKind (Found.ofDocument d) .nameOrMap]

mutual

/-- Everything in a document that does not fit the shape, in reading order. -/
def Shape.faults : Shape → Document → List Fault
  | .text, d => textFaults d
  | .flag, d => flagFaults d
  | .int32, d => integerFaults .int32 Int32.minValue.toInt Int32.maxValue.toInt d
  | .int64, d => integerFaults .int64 Int64.minValue.toInt Int64.maxValue.toInt d
  | .time, d => timeFaults d
  | .status, d | .errorCode, d => nameFaults d
  | .free, _ => []
  | .record name fields, d =>
    match d.view with
    | .object members => members.entries.flatMap fun e => fields.faultsAt e.1 e.2
    | .array items =>
      fields.faultsOfItems items ++
        if items.length ≤ fields.names.length then [] else [.surplusElements items.length]
    | _ => [.wrongKind (Found.ofDocument d) (.record name)]
  | .list item, d =>
    match d.view with
    | .array items => items.flatMap item.faults
    | _ => [.wrongKind (Found.ofDocument d) .sequence]
  | .dict value, d =>
    match d.view with
    | .object members => members.entries.flatMap fun e => value.faults e.2
    | _ => [.wrongKind (Found.ofDocument d) .map]

/-- What does not fit in one member; an unknown one always fits. -/
def Fields.faultsAt : Fields → String → Document → List Fault
  | .nil, _, _ => []
  | .cons name shape rest, key, d =>
    if key = name then if shape.isOmission d then [] else shape.faults d
    else rest.faultsAt key d

/-- What does not fit in members that are written in the order they are declared. -/
def Fields.faultsOfItems : Fields → List Document → List Fault
  | .nil, _ => []
  | .cons _ _ _, [] => []
  | .cons _ shape rest, d :: items =>
    (if shape.isOmission d then [] else shape.faults d) ++ rest.faultsOfItems items

end

/-! ## Decoding reports the first one -/

theorem faultOf_decodeText (d : Document) : faultOf (decodeText d) = (textFaults d).head? := by
  rw [decodeText, textFaults]
  cases d.view <;> rfl

theorem faultOf_decodeFlag (d : Document) : faultOf (decodeFlag d) = (flagFaults d).head? := by
  rw [decodeFlag, flagFaults]
  cases d.view <;> rfl

theorem faultOf_decodeInteger (expected : Expectation) (low high : Int) (d : Document) :
    faultOf (decodeInteger expected low high d) =
      (integerFaults expected low high d).head? := by
  rw [decodeInteger, integerFaults]
  cases d.view with
  | word n =>
      by_cases hrange : low ≤ n.val ∧ n.val ≤ high
      · simp only [if_pos hrange, faultOf_ok, List.head?_nil]
      · simp only [if_neg hrange, faultOf_error, List.head?_cons]
  | null | bool _ | double _ | text _ | array _ | object _ => rfl

theorem faultOf_decodeTime (d : Document) : faultOf (decodeTime d) = (timeFaults d).head? := by
  rw [decodeTime, timeFaults]
  cases d.view with
  | word n =>
      by_cases hrange : n.val < 0x8000000000000000
      · simp only [Timestamp.ofNumber?, if_pos hrange, faultOf_ok, List.head?_nil]
      · simp only [Timestamp.ofNumber?, if_neg hrange, faultOf_error, List.head?_cons]
  | double x =>
      by_cases hrange : -0x8000000000000000 * (Double.grainsPerOne : Int) ≤ x.grains ∧
          x.grains < 0x8000000000000000 * (Double.grainsPerOne : Int)
      · simp only [Timestamp.ofNumber?, if_pos hrange, faultOf_ok, List.head?_nil]
      · simp only [Timestamp.ofNumber?, if_neg hrange, faultOf_error, List.head?_cons]
  | null | bool _ | text _ | array _ | object _ => rfl

theorem faultOf_decodeName (d : Document) : faultOf (decodeName d) = (nameFaults d).head? := by
  rw [decodeName, nameFaults]
  cases d.view with
  | object members =>
      cases hentries : members.entries with
      | nil => simp only [hentries, faultOf_error, List.head?_cons]
      | cons m rest =>
          cases rest with
          | nil =>
              simp only [hentries]
              cases m.2.view <;> rfl
          | cons m' rest => simp only [hentries, faultOf_error, List.head?_cons]
  | null | bool _ | word _ | double _ | text _ | array _ => rfl

mutual

theorem Shape.faultOf_decode : ∀ (shape : Shape) (d : Document),
    faultOf (shape.decode d) = (shape.faults d).head?
  | .text, d => faultOf_decodeText d
  | .flag, d => faultOf_decodeFlag d
  | .int32, d => (faultOf_map _ _).trans (faultOf_decodeInteger _ _ _ d)
  | .int64, d => (faultOf_map _ _).trans (faultOf_decodeInteger _ _ _ d)
  | .time, d => faultOf_decodeTime d
  | .status, d => (faultOf_map _ _).trans (faultOf_decodeName d)
  | .errorCode, d => (faultOf_map _ _).trans (faultOf_decodeName d)
  | .free, _ => rfl
  | .record name fields, d => by
      rw [Shape.decode, Shape.faults]
      cases d.view with
      | object members =>
          exact faultOf_foldMembers (fun v key value => fields.faultOf_assign key value v) _ _
      | array items =>
          show faultOf (match fields.decodeItems items with | .error e => _ | .ok v => _) = _
          rw [List.head?_append, ← fields.faultOf_decodeItems items]
          cases fields.decodeItems items with
          | error fault => rfl
          | ok v =>
              show faultOf (if _ then _ else _) = _
              split <;> rfl
      | null | bool _ | word _ | double _ | text _ => rfl
  | .list item, d => by
      rw [Shape.decode, Shape.faults]
      cases d.view with
      | array items => exact faultOf_decodeEach item.faultOf_decode items
      | null | bool _ | word _ | double _ | text _ | object _ => rfl
  | .dict value, d => by
      rw [Shape.decode, Shape.faults]
      cases d.view with
      | object members => exact faultOf_tryMap value.faultOf_decode members
      | null | bool _ | word _ | double _ | text _ | array _ => rfl

theorem Fields.faultOf_assign : ∀ (fields : Fields) (key : String) (d : Document)
    (v : fields.Val), faultOf (fields.assign key d v) = (fields.faultsAt key d).head?
  | .nil, _, _, _ => rfl
  | .cons name shape rest, key, d, (current, others) => by
      rw [Fields.assign, Fields.faultsAt]
      split
      · split
        · rfl
        · exact (faultOf_map _ _).trans (shape.faultOf_decode d)
      · exact (faultOf_map _ _).trans (rest.faultOf_assign key d others)

theorem Fields.faultOf_decodeItems : ∀ (fields : Fields) (items : List Document),
    faultOf (fields.decodeItems items) = (fields.faultsOfItems items).head?
  | .nil, _ => by rw [Fields.decodeItems, Fields.faultsOfItems]; rfl
  | .cons _ _ _, [] => rfl
  | .cons name shape rest, d :: items => by
      rw [Fields.decodeItems, Fields.faultsOfItems, List.head?_append,
        ← rest.faultOf_decodeItems items]
      cases shape.isOmission d with
      | true => exact faultOf_map _ _
      | false =>
          rw [if_neg Bool.false_ne_true, if_neg Bool.false_ne_true, ← shape.faultOf_decode d]
          cases shape.decode d with
          | error fault => rfl
          | ok v => exact faultOf_map _ _

end

end DeviceLink
