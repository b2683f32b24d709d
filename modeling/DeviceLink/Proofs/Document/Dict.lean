import DeviceLink.Dict
import Mathlib.Data.List.Nodup
import Mathlib.Data.List.Sort

/-!
# Dictionaries from lists of entries

Entries with different keys can be collected into a dictionary in any order: the
dictionary has exactly these entries, and since it lists them by key it is the
same one.  Its values may be replaced, or left out, key by key.
-/

namespace DeviceLink

section Results

variable {ε α β : Type} {b : β}

theorem Except.map_eq_ok {f : α → β} {result : Except ε α} :
    result.map f = .ok b ↔ ∃ a, result = .ok a ∧ f a = b := by
  cases result with
  | error e => exact iff_of_false nofun fun ⟨_, h, _⟩ => nomatch h
  | ok a => simp [Except.map]

theorem Except.bind_eq_ok {f : α → Except ε β} {result : Except ε α} :
    result.bind f = .ok b ↔ ∃ a, result = .ok a ∧ f a = .ok b := by
  cases result with
  | error e => exact iff_of_false nofun fun ⟨_, h, _⟩ => nomatch h
  | ok a => simp [Except.bind]

end Results

end DeviceLink

namespace DeviceLink.Dict

variable {α β ε : Type}

theorem insertEntry_perm {key : String} {value : α} {l : List (String × α)}
    (fresh : key ∉ l.map (·.1)) : (insertEntry key value l).Perm ((key, value) :: l) := by
  induction l with
  | nil => exact List.Perm.refl _
  | cons e rest ih =>
      obtain ⟨k, v⟩ := e
      rw [List.map_cons, List.mem_cons, not_or] at fresh
      rw [insertEntry]
      split
      · exact List.Perm.refl _
      · split
        · have hrest := (ih fresh.2).cons (k, v)
          exact hrest.trans (List.Perm.swap _ _ _)
        · next notBelow notAbove =>
            exact absurd (String.le_antisymm (String.not_lt.mp notAbove)
              (String.not_lt.mp notBelow)) fresh.1

/-- The order of the entries carries no information. -/
theorem eq_of_perm {a b : Dict α} (h : a.entries.Perm b.entries) : a = b := by
  have sorted (d : Dict α) : d.entries.Pairwise (fun x y => x.1 < y.1) :=
    List.pairwise_map.mp d.ascending
  apply ext
  apply h.eq_of_pairwise _ (sorted a) (sorted b)
  intro x y _ _ hxy hyx
  exact absurd (String.lt_trans hxy hyx) (String.lt_irrefl _)

theorem nodup_keys (d : Dict α) : (d.entries.map (·.1)).Nodup := by
  have h : (d.entries.map (·.1)).Pairwise (· < ·) := d.ascending
  apply h.imp
  rintro x _ hlt rfl
  exact String.lt_irrefl x hlt

theorem entries_foldl_insert_perm {l : List (String × α)} {d : Dict α}
    (different : ((d.entries ++ l).map (·.1)).Nodup) :
    (l.foldl (fun d e => d.insert e.1 e.2) d).entries.Perm (d.entries ++ l) := by
  induction l generalizing d with
  | nil => simp
  | cons e rest ih =>
      have hmove : (d.entries ++ e :: rest).Perm (e :: d.entries ++ rest) := List.perm_middle
      have hdiff := (hmove.map (·.1)).nodup_iff.mp different
      have hfresh : e.1 ∉ d.entries.map (·.1) := by
        intro he
        rw [List.cons_append, List.map_cons, List.nodup_cons] at hdiff
        exact hdiff.1 (by rw [List.map_append]; exact List.mem_append_left _ he)
      have hins : (d.insert e.1 e.2).entries.Perm (e :: d.entries) := insertEntry_perm hfresh
      have hins' := hins.append_right rest
      have hrest := ih ((hins'.map (·.1)).nodup_iff.mpr hdiff)
      exact hrest.trans (hins'.trans hmove.symm)

theorem entries_ofList_perm {l : List (String × α)} (different : (l.map (·.1)).Nodup) :
    (ofList l).entries.Perm l := by
  have h : (ofList l).entries.Perm (empty.entries ++ l) := entries_foldl_insert_perm different
  exact h

/-- Collecting the entries of a dictionary gives it back, in whatever order they
come. -/
theorem ofList_of_perm {l : List (String × α)} {d : Dict α} (h : l.Perm d.entries) :
    ofList l = d := by
  have different : (l.map (·.1)).Nodup := (h.map (·.1)).nodup_iff.mpr d.nodup_keys
  exact eq_of_perm ((entries_ofList_perm different).trans h)

theorem mapEntries_map {f : α → β} {g : β → Except ε α} (l : List (String × α))
    (inverse : ∀ e ∈ l, g (f e.2) = .ok e.2) :
    ∃ h, mapEntries g (l.map fun e => (e.1, f e.2)) = .ok ⟨l, h⟩ := by
  induction l with
  | nil => exact ⟨rfl, rfl⟩
  | cons e rest ih =>
      obtain ⟨h, hrest⟩ := ih fun x hx => inverse x (List.mem_cons_of_mem _ hx)
      have hhead := inverse e List.mem_cons_self
      refine ⟨by simp, ?_⟩
      show mapEntries g ((e.1, f e.2) :: rest.map fun e => (e.1, f e.2)) = _
      simp only [mapEntries, hhead, hrest]

theorem tryMap_map {f : α → β} {g : β → Except ε α} (d : Dict α)
    (inverse : ∀ e ∈ d.entries, g (f e.2) = .ok e.2) : tryMap g (d.map f) = .ok d := by
  obtain ⟨h, hentries⟩ := mapEntries_map d.entries inverse
  simp only [tryMap, map, hentries]

/-! ## What is found under a key -/

theorem lookup_cons {key k : String} {a : α} {rest : List (String × α)} :
    ((k, a) :: rest).lookup key = if key = k then some a else rest.lookup key := by
  rw [List.lookup_cons]
  by_cases h : key = k
  · simp [h]
  · simp [h, beq_eq_false_iff_ne.mpr h]

theorem lookup_eq_none_iff {key : String} {l : List (String × α)} :
    l.lookup key = none ↔ key ∉ l.map (·.1) := by
  rw [List.lookup_eq_none_iff]
  simp only [bne_iff_ne, List.mem_map, not_exists, not_and]
  exact forall₂_congr fun e _ => ne_comm

theorem mem_of_lookup {key : String} {a : α} {l : List (String × α)}
    (found : l.lookup key = some a) : (key, a) ∈ l := by
  obtain ⟨before, after, rfl, -⟩ := List.lookup_eq_some_iff.mp found
  exact List.mem_append_right _ List.mem_cons_self

theorem lookup_eq_some_iff {key : String} {a : α} {l : List (String × α)}
    (different : (l.map (·.1)).Nodup) : l.lookup key = some a ↔ (key, a) ∈ l := by
  refine ⟨mem_of_lookup, fun hmem => ?_⟩
  cases hfound : l.lookup key with
  | none => exact absurd (List.mem_map_of_mem hmem) (lookup_eq_none_iff.mp hfound)
  | some b =>
      have hsame := List.inj_on_of_nodup_map different (mem_of_lookup hfound) hmem rfl
      exact congrArg some (congrArg Prod.snd hsame)

theorem get?_ofList {l : List (String × α)} (different : (l.map (·.1)).Nodup) (key : String) :
    (ofList l).get? key = l.lookup key := by
  apply Option.ext
  intro a
  rw [get?, lookup_eq_some_iff (nodup_keys _), lookup_eq_some_iff different,
    (entries_ofList_perm different).mem_iff]

theorem get?_map (f : α → β) (d : Dict α) (key : String) :
    (d.map f).get? key = (d.get? key).map f := by
  show (d.entries.map fun e => (e.1, f e.2)).lookup key = (d.entries.lookup key).map f
  induction d.entries with
  | nil => rfl
  | cons e rest ih =>
      rw [List.map_cons, lookup_cons, lookup_cons, ih]
      split <;> rfl

/-! ## Other values -/

theorem keys_filterMap_sublist (f : String → α → Option β) (l : List (String × α)) :
    ((l.filterMap fun e => (f e.1 e.2).map (e.1, ·)).map (·.1)).Sublist (l.map (·.1)) := by
  induction l with
  | nil => exact List.Sublist.refl _
  | cons e rest ih =>
      rw [List.filterMap_cons]
      cases f e.1 e.2 with
      | none => exact ih.cons e.1
      | some b => exact ih.cons_cons e.1

def filterMap (f : String → α → Option β) (d : Dict α) : Dict β :=
  ⟨d.entries.filterMap fun e => (f e.1 e.2).map (e.1, ·),
    d.ascending.sublist (keys_filterMap_sublist f d.entries)⟩

theorem val_mapEntries_cons (f : α → Except ε β) (key : String) (a : α)
    (rest : List (String × α)) :
    (mapEntries f ((key, a) :: rest)).map Subtype.val =
      (f a).bind fun b => ((mapEntries f rest).map Subtype.val).map ((key, b) :: ·) := by
  rw [mapEntries]
  cases f a with
  | error e => rfl
  | ok b => cases mapEntries f rest <;> rfl

theorem val_mapEntries_map {f : α → Except ε β} {g : α → α} (same : ∀ a, f (g a) = f a)
    (l : List (String × α)) :
    (mapEntries f (l.map fun e => (e.1, g e.2))).map Subtype.val =
      (mapEntries f l).map Subtype.val := by
  induction l with
  | nil => rfl
  | cons e rest ih => rw [List.map_cons, val_mapEntries_cons, val_mapEntries_cons, same, ih]

theorem entries_tryMap (f : α → Except ε β) (d : Dict α) :
    (d.tryMap f).map entries = (mapEntries f d.entries).map Subtype.val := by
  rw [tryMap]
  cases mapEntries f d.entries <;> rfl

theorem lookup_mapEntries {f : α → Except ε β} (key : String) {l : List (String × α)}
    {m : List (String × β)} (mapped : (mapEntries f l).map Subtype.val = .ok m) :
    Option.Rel (fun a b => f a = .ok b) (l.lookup key) (m.lookup key) := by
  induction l generalizing m with
  | nil =>
      obtain rfl := Except.ok.inj mapped
      exact .none
  | cons e rest ih =>
      obtain ⟨k, a⟩ := e
      rw [val_mapEntries_cons] at mapped
      obtain ⟨b, hhead, hrest⟩ := Except.bind_eq_ok.mp mapped
      obtain ⟨others, hothers, rfl⟩ := Except.map_eq_ok.mp hrest
      rw [lookup_cons, lookup_cons]
      split
      · exact .some hhead
      · exact ih hothers

/-- Under each key stands what the value there was mapped to. -/
theorem get?_tryMap {f : α → Except ε β} (key : String) {d : Dict α} {e : Dict β}
    (mapped : d.tryMap f = .ok e) :
    Option.Rel (fun a b => f a = .ok b) (d.get? key) (e.get? key) := by
  have hentries := entries_tryMap f d
  rw [mapped] at hentries
  exact lookup_mapEntries key hentries.symm

theorem tryMap_map_same {f : α → Except ε β} {g : α → α} (same : ∀ a, f (g a) = f a)
    (d : Dict α) : (d.map g).tryMap f = d.tryMap f := by
  have hentries : ((d.map g).tryMap f).map entries = (d.tryMap f).map entries := by
    rw [entries_tryMap, entries_tryMap]
    exact val_mapEntries_map same d.entries
  cases hleft : (d.map g).tryMap f with
  | error e =>
      cases hright : d.tryMap f with
      | error e' => simpa [hleft, hright, Except.map] using hentries
      | ok m' => simp [hleft, hright, Except.map] at hentries
  | ok m =>
      cases hright : d.tryMap f with
      | error e' => simp [hleft, hright, Except.map] at hentries
      | ok m' =>
          rw [hleft, hright] at hentries
          exact congrArg Except.ok (ext (Except.ok.inj hentries))

/-! ## One entry among others -/

theorem lookup_middle {key : String} {before after : List (String × α)}
    (fresh : key ∉ before.map (·.1)) (value : α) (other : String) :
    (before ++ (key, value) :: after).lookup other =
      if other = key then some value else (before ++ after).lookup other := by
  rw [List.lookup_append, List.lookup_append, lookup_cons]
  split
  · next hsame =>
      rw [hsame, lookup_eq_none_iff.mpr fresh]
      rfl
  · rfl

theorem insertEntry_middle {key : String} {before after : List (String × α)}
    (below : ∀ e ∈ before, e.1 < key) (value other : α) :
    insertEntry key other (before ++ (key, value) :: after) = before ++ (key, other) :: after := by
  induction before with
  | nil =>
      have hsame : ¬ key < key := String.lt_irrefl key
      rw [List.nil_append, insertEntry, if_neg hsame, if_neg hsame]
      rfl
  | cons e rest ih =>
      obtain ⟨hbelow, hrest⟩ := List.forall_mem_cons.mp below
      rw [List.cons_append, insertEntry, if_neg (String.lt_asymm hbelow), if_pos hbelow, ih hrest]
      rfl

/-- What stands around an entry does not depend on its value. -/
theorem exists_split_of_get? {d : Dict α} {key : String} {value : α}
    (found : d.get? key = some value) :
    ∃ before after, key ∉ before.map (·.1) ∧ d.entries = before ++ (key, value) :: after ∧
      ∀ other, (d.insert key other).entries = before ++ (key, other) :: after := by
  obtain ⟨before, after, hentries, -⟩ := List.lookup_eq_some_iff.mp found
  have hascending : (before ++ (key, value) :: after).Pairwise (fun x y => x.1 < y.1) :=
    hentries ▸ List.pairwise_map.mp d.ascending
  have hbelow : ∀ e ∈ before, e.1 < key := fun e he =>
    (List.pairwise_append.mp hascending).2.2 e he _ List.mem_cons_self
  refine ⟨before, after, fun hmem => ?_, hentries, fun other => ?_⟩
  · obtain ⟨e, he, rfl⟩ := List.mem_map.mp hmem
    exact String.lt_irrefl _ (hbelow e he)
  · show insertEntry key other d.entries = _
    rw [hentries]
    exact insertEntry_middle hbelow value other

theorem tryMap_eq_ok_iff {f : α → Except ε β} {d : Dict α} {e : Dict β} :
    d.tryMap f = .ok e ↔
      List.Forall₂ (fun a b => a.1 = b.1 ∧ f a.2 = .ok b.2) d.entries e.entries := by
  have hlists : ∀ (l : List (String × α)) (m : List (String × β)),
      (mapEntries f l).map Subtype.val = .ok m ↔
        List.Forall₂ (fun a b => a.1 = b.1 ∧ f a.2 = .ok b.2) l m := by
    intro l
    induction l with
    | nil =>
        intro m
        simp [mapEntries, Except.map, eq_comm]
    | cons a rest ih =>
        intro m
        rw [val_mapEntries_cons, Except.bind_eq_ok]
        simp only [Except.map_eq_ok, ih]
        constructor
        · rintro ⟨b, hb, others, hothers, rfl⟩
          exact .cons ⟨rfl, hb⟩ hothers
        · rintro (_ | ⟨⟨hkey, hb⟩, hothers⟩)
          exact ⟨_, hb, _, hothers, by rw [hkey]⟩
  rw [← hlists, ← entries_tryMap, Except.map_eq_ok]
  constructor
  · intro hmapped
    exact ⟨e, hmapped, rfl⟩
  · rintro ⟨e', hmapped, hentries⟩
    rw [hmapped, ext hentries]

end DeviceLink.Dict
