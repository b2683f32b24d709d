/-!
# Dictionaries with text keys

A dictionary lists its entries by strictly increasing key, so two dictionaries
with the same entries are equal, and every walk over one is in key order.  Keys
are compared by code points; this is also the order of their UTF-8 bytes.
-/

namespace DeviceLink

def KeysAscend (keys : List String) : Prop :=
  keys.Pairwise (· < ·)

/-- Entries in strictly increasing key order, at most one for each key. -/
structure Dict (α : Type) where
  entries : List (String × α)
  ascending : KeysAscend (entries.map (·.1))

namespace Dict

variable {α β : Type}

@[ext]
theorem ext {a b : Dict α} (h : a.entries = b.entries) : a = b := by
  cases a; cases b; cases h; rfl

instance [DecidableEq α] : DecidableEq (Dict α) := fun a b =>
  if h : a.entries = b.entries then isTrue (ext h)
  else isFalse fun e => h (e ▸ rfl)

def empty : Dict α := ⟨[], .nil⟩

def keys (d : Dict α) : List String := d.entries.map (·.1)

def get? (d : Dict α) (key : String) : Option α := d.entries.lookup key

/-- Puts an entry at its place in a list ordered by key; an entry with the same
key is replaced. -/
def insertEntry (key : String) (value : α) : List (String × α) → List (String × α)
  | [] => [(key, value)]
  | (k, v) :: rest =>
    if key < k then (key, value) :: (k, v) :: rest
    else if k < key then (k, v) :: insertEntry key value rest
    else (key, value) :: rest

theorem mem_keys_insertEntry {key k : String} {value : α} {l : List (String × α)}
    (h : k ∈ (insertEntry key value l).map (·.1)) : k = key ∨ k ∈ l.map (·.1) := by
  induction l with
  | nil => simpa [insertEntry] using h
  | cons e rest ih =>
    obtain ⟨k', v'⟩ := e
    simp only [insertEntry] at h
    split at h
    · simpa using h
    · split at h
      · simp only [List.map_cons, List.mem_cons] at h ⊢
        rcases h with h | h
        · exact .inr (.inl h)
        · exact (ih h).imp_right .inr
      · simp only [List.map_cons, List.mem_cons] at h ⊢
        exact h.imp_right .inr

theorem ascend_insertEntry (key : String) (value : α) (l : List (String × α))
    (h : KeysAscend (l.map (·.1))) : KeysAscend ((insertEntry key value l).map (·.1)) := by
  induction l with
  | nil => simp [insertEntry, KeysAscend]
  | cons e rest ih =>
    obtain ⟨k, v⟩ := e
    simp only [KeysAscend, List.map_cons, List.pairwise_cons] at h
    simp only [insertEntry]
    split
    · next below =>
        simp only [KeysAscend, List.map_cons, List.pairwise_cons, List.mem_cons]
        refine ⟨?_, h.1, h.2⟩
        rintro x (rfl | hx)
        · exact below
        · exact String.lt_trans below (h.1 x hx)
    · split
      · next above =>
          simp only [KeysAscend, List.map_cons, List.pairwise_cons]
          refine ⟨?_, ih h.2⟩
          intro x hx
          rcases mem_keys_insertEntry hx with rfl | hx
          · exact above
          · exact h.1 x hx
      · next notBelow notAbove =>
          have same : key = k :=
            String.le_antisymm (String.not_lt.mp notAbove) (String.not_lt.mp notBelow)
          subst same
          simp only [KeysAscend, List.map_cons, List.pairwise_cons]
          exact h

def insert (d : Dict α) (key : String) (value : α) : Dict α :=
  ⟨insertEntry key value d.entries, ascend_insertEntry key value d.entries d.ascending⟩

/-- The dictionary of a list of entries; of several with one key the last
counts. -/
def ofList (l : List (String × α)) : Dict α :=
  l.foldl (fun d e => d.insert e.1 e.2) empty

def map (f : α → β) (d : Dict α) : Dict β :=
  ⟨d.entries.map fun e => (e.1, f e.2), by
    have : (d.entries.map fun e => (e.1, f e.2)).map (·.1) = d.entries.map (·.1) := by simp
    rw [this]
    exact d.ascending⟩

/-- Another value for each key, found in key order; the first failure is the
failure of the whole. -/
def mapEntries {ε : Type} (f : α → Except ε β) :
    (l : List (String × α)) → Except ε { m : List (String × β) // m.map (·.1) = l.map (·.1) }
  | [] => .ok ⟨[], rfl⟩
  | (k, v) :: rest =>
    match f v with
    | .error e => .error e
    | .ok w =>
      match mapEntries f rest with
      | .error e => .error e
      | .ok ⟨m, h⟩ => .ok ⟨(k, w) :: m, by simp [h]⟩

def tryMap {ε : Type} (f : α → Except ε β) (d : Dict α) : Except ε (Dict β) :=
  match mapEntries f d.entries with
  | .error e => .error e
  | .ok ⟨m, h⟩ => .ok ⟨m, by rw [h]; exact d.ascending⟩

end Dict

end DeviceLink
