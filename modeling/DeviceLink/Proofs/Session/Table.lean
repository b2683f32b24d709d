import DeviceLink.Session.Basic
import Mathlib.Data.List.Nodup
import Mathlib.Data.List.Perm.Basic

/-!
# The table of routes

`Routes` lists at most one route for each topic, in an order that means
nothing.  These lemmas read the table through `get?` only: what it answers after
`insert` and `erase`, and that it answers the same in every order.
-/

namespace DeviceLink.Session.Routes

/-- At most one route for each topic. -/
def OnePerTopic (routes : Routes) : Prop := (routes.map Prod.fst).Nodup

variable {routes : Routes} {topic other : String} {route : Route}

theorem get?_cons {t : String} {r : Route} {rest : Routes} :
    get? ((t, r) :: rest) topic = if topic = t then some r else rest.get? topic := by
  unfold get?
  rw [List.lookup_cons]
  by_cases h : topic = t
  · simp [h]
  · simp [h, beq_eq_false_iff_ne.mpr h]

theorem get?_insert : (routes.insert topic route).get? other =
    if other = topic then some route else routes.get? other := by
  induction routes with
  | nil =>
      rw [insert, get?_cons]
  | cons e rest ih =>
      obtain ⟨t, r⟩ := e
      rw [insert]
      by_cases ht : t = topic
      · subst ht
        rw [if_pos rfl, get?_cons, get?_cons]
        by_cases ho : other = t <;> simp [ho]
      · rw [if_neg ht, get?_cons, get?_cons, ih]
        by_cases ho : other = t
        · subst ho
          simp [ht]
        · simp [ho]

theorem erase_cons {t : String} {r : Route} {rest : Routes} :
    erase ((t, r) :: rest) topic =
      if t = topic then rest.erase topic else (t, r) :: rest.erase topic := by
  unfold erase
  by_cases h : t = topic <;> simp [h]

theorem get?_erase : (routes.erase topic).get? other =
    if other = topic then none else routes.get? other := by
  induction routes with
  | nil => simp [erase, get?]
  | cons e rest ih =>
      obtain ⟨t, r⟩ := e
      rw [erase_cons, get?_cons]
      by_cases ht : t = topic
      · subst ht
        rw [if_pos rfl, ih]
        by_cases ho : other = t <;> simp [ho]
      · rw [if_neg ht, get?_cons, ih]
        by_cases ho : other = t
        · subst ho
          simp [ht]
        · simp [ho]

/-- Removing a topic's route only if it is of a certain kind. -/
theorem get?_erase_if {p : Route → Bool} :
    (if (routes.get? topic).any p then routes.erase topic else routes).get? other = some route ↔
      routes.get? other = some route ∧ (other = topic → p route = false) := by
  by_cases ho : other = topic
  · subst ho
    cases hfound : routes.get? other with
    | none => simp [hfound]
    | some found =>
        cases hp : p found with
        | true =>
            rw [Option.any_some, if_pos hp, get?_erase, if_pos rfl]
            constructor
            · exact fun h => absurd h (by simp)
            · rintro ⟨hsame, hkept⟩
              obtain rfl := Option.some.inj hsame
              exact absurd (hp.symm.trans (hkept rfl)) (by simp)
        | false =>
            rw [Option.any_some, if_neg (by simp [hp]), hfound]
            constructor
            · intro hsame
              obtain rfl := Option.some.inj hsame
              exact ⟨rfl, fun _ => hp⟩
            · exact fun h => h.1
  · have hsame : (if (routes.get? topic).any p then routes.erase topic else routes).get? other =
        routes.get? other := by
      split
      · rw [get?_erase, if_neg ho]
      · rfl
    rw [hsame]
    exact ⟨fun h => ⟨h, fun htopic => absurd htopic ho⟩, fun h => h.1⟩

theorem mem_of_get? (h : routes.get? topic = some route) : (topic, route) ∈ routes := by
  induction routes with
  | nil => simp [get?] at h
  | cons e rest ih =>
      obtain ⟨t, r⟩ := e
      rw [get?_cons] at h
      by_cases ht : topic = t
      · rw [if_pos ht] at h
        obtain rfl := Option.some.inj h
        exact ht ▸ List.mem_cons_self
      · rw [if_neg ht] at h
        exact List.mem_cons_of_mem _ (ih h)

theorem get?_eq_none_iff : routes.get? topic = none ↔ topic ∉ routes.map Prod.fst := by
  induction routes with
  | nil => simp [get?]
  | cons e rest ih =>
      obtain ⟨t, r⟩ := e
      rw [get?_cons, List.map_cons, List.mem_cons, not_or, ← ih]
      by_cases ht : topic = t <;> simp [ht]

theorem keys_insert_subset (routes : Routes) (topic : String) (route : Route) :
    (routes.insert topic route).map Prod.fst ⊆ topic :: routes.map Prod.fst := by
  intro t ht
  by_contra hnot
  obtain ⟨hne, hold⟩ := not_or.mp (mt List.mem_cons.mpr hnot)
  have hnone : (routes.insert topic route).get? t = none := by
    rw [get?_insert, if_neg hne, get?_eq_none_iff]
    exact hold
  exact get?_eq_none_iff.mp hnone ht

namespace OnePerTopic

theorem get?_eq_some_iff (one : OnePerTopic routes) :
    routes.get? topic = some route ↔ (topic, route) ∈ routes := by
  refine ⟨mem_of_get?, fun h => ?_⟩
  cases hr : routes.get? topic with
  | none => exact absurd (List.mem_map_of_mem h) (get?_eq_none_iff.mp hr)
  | some found =>
      have heq := List.inj_on_of_nodup_map one (mem_of_get? hr) h rfl
      exact congrArg some (congrArg Prod.snd heq)

theorem perm {listed : Routes} (one : OnePerTopic routes) (h : listed.Perm routes) :
    OnePerTopic listed :=
  (h.map Prod.fst).nodup_iff.mpr one

/-- The order of the table means nothing. -/
theorem get?_perm {listed : Routes} (one : OnePerTopic routes) (h : listed.Perm routes) :
    listed.get? topic = routes.get? topic := by
  apply Option.ext
  intro r
  rw [(one.perm h).get?_eq_some_iff, one.get?_eq_some_iff, h.mem_iff]

theorem erase (one : OnePerTopic routes) : OnePerTopic (routes.erase topic) :=
  List.Nodup.sublist (List.filter_sublist.map Prod.fst) one

theorem insert (one : OnePerTopic routes) : OnePerTopic (routes.insert topic route) := by
  induction routes with
  | nil => simp [Routes.insert, OnePerTopic]
  | cons e rest ih =>
      obtain ⟨t, r⟩ := e
      have hparts := List.nodup_cons.mp one
      rw [Routes.insert]
      by_cases ht : t = topic
      · subst ht
        simpa [OnePerTopic] using hparts
      · rw [if_neg ht]
        refine List.nodup_cons.mpr ⟨fun hmem => ?_, ih hparts.2⟩
        rcases List.mem_cons.mp (keys_insert_subset rest topic route hmem) with h | h
        · exact ht h
        · exact hparts.1 h

end OnePerTopic

end DeviceLink.Session.Routes
