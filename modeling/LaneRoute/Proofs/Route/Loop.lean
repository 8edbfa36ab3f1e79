import LaneRoute.Route.Section

/-!
# Loops

A route has a loop exactly when some lane is in two of its sections between which there is
another one. The table of first sections is the invariant.
-/

set_option autoImplicit false

namespace LaneRoute.RouteSections

def Holds (sections : List RouteSection) (index : Nat) (id : Int) : Prop :=
  ∃ s, sections[index]? = some s ∧ id ∈ s.primitives

def firstIndex? (sections : List RouteSection) (id : Int) : Option Nat :=
  sections.findIdx? fun s => id ∈ s.primitives

theorem holds_append {before rest more : List RouteSection} {s : RouteSection} {index : Nat}
    (h : index ≤ before.length) (id : Int) :
    Holds (before ++ s :: rest) index id ↔ Holds (before ++ s :: more) index id := by
  unfold Holds
  rcases Nat.lt_or_eq_of_le h with hlt | rfl
  · rw [List.getElem?_append_left hlt, List.getElem?_append_left hlt]
  · simp

theorem firstIndex?_eq_some {sections : List RouteSection} {id : Int} {first : Nat}
    (h : firstIndex? sections id = some first) :
    Holds sections first id ∧ ∀ index, Holds sections index id → first ≤ index := by
  obtain ⟨hlt, hfirst, hbefore⟩ := List.findIdx?_eq_some_iff_getElem.1 h
  refine ⟨⟨_, List.getElem?_eq_getElem hlt, by simpa using hfirst⟩, ?_⟩
  rintro index ⟨s, hs, hid⟩
  apply Nat.le_of_not_lt
  intro hless
  obtain ⟨_, rfl⟩ := List.getElem?_eq_some_iff.1 hs
  simpa [hid] using hbefore index hless

theorem any_firstIndex? {sections : List RouteSection} {id : Int} {bound : Nat} :
    ((firstIndex? sections id).any fun first => first + 1 < bound) = true ↔
      ∃ index, index + 1 < bound ∧ Holds sections index id := by
  rw [Option.any_eq_true]
  constructor
  · rintro ⟨first, hfirst, hlt⟩
    exact ⟨first, by simpa using hlt, (firstIndex?_eq_some hfirst).1⟩
  · rintro ⟨index, hlt, hindex⟩
    cases hfirst : firstIndex? sections id with
    | none =>
      obtain ⟨s, hs, hid⟩ := hindex
      have hnone := List.findIdx?_eq_none_iff.1 hfirst s (List.mem_of_getElem? hs)
      simp [hid] at hnone
    | some first =>
      have hle := (firstIndex?_eq_some hfirst).2 index hindex
      exact ⟨first, rfl, by simp; omega⟩

theorem lookup_met (ids : List Int) (seen : List (Int × Nat)) (index : Nat) (id : Int) :
    (ids.foldl (fun seen id =>
      if (seen.lookup id).isSome then seen else seen ++ [(id, index)]) seen).lookup id
      = (seen.lookup id).or (if id ∈ ids then some index else none) := by
  induction ids generalizing seen with
  | nil => simp
  | cons met ids ih =>
    rw [List.foldl_cons, ih]
    by_cases hid : id = met
    · subst hid
      cases hseen : seen.lookup id with
      | none => simp [hseen, List.lookup_append]
      | some first => simp [hseen]
    · cases hseen : seen.lookup met with
      | none =>
        have hother : [(met, index)].lookup id = none := by
          rw [List.lookup_eq_none_iff]
          simpa using hid
        simp [List.lookup_append, hother, hid]
      | some first => simp [hid]

theorem lookup_met_section {before : List RouteSection} {seen : List (Int × Nat)}
    (h : ∀ id, seen.lookup id = firstIndex? before id) (s : RouteSection) (id : Int) :
    (s.primitives.foldl (fun seen id =>
      if (seen.lookup id).isSome then seen else seen ++ [(id, before.length)]) seen).lookup id
      = firstIndex? (before ++ [s]) id := by
  rw [lookup_met, h, firstIndex?, firstIndex?, List.findIdx?_append]
  by_cases hid : id ∈ s.primitives <;> simp [hid]

theorem loopFrom_iff (before rest : List RouteSection) {seen : List (Int × Nat)}
    (h : ∀ id, seen.lookup id = firstIndex? before id) :
    loopFrom seen before.length rest = true ↔
      ∃ id index later, before.length ≤ later ∧ index + 1 < later ∧
        Holds (before ++ rest) index id ∧ Holds (before ++ rest) later id := by
  induction rest generalizing before seen with
  | nil =>
    simp only [loopFrom, Bool.false_eq_true, List.append_nil, false_iff]
    rintro ⟨id, index, later, hle, -, -, s, hs, -⟩
    rw [List.getElem?_eq_none hle] at hs
    simp at hs
  | cons s rest ih =>
    have hmet := lookup_met_section h s
    have hrest := ih (before ++ [s]) hmet
    rw [List.length_append, List.length_singleton, List.append_assoc, List.singleton_append]
      at hrest
    rw [loopFrom, Bool.or_eq_true, hrest, List.any_eq_true]
    simp only [hmet, any_firstIndex?]
    constructor
    · rintro (⟨id, hid, index, hlt, hindex⟩ | ⟨id, index, later, hle, hlt, hindex, hlater⟩)
      · refine ⟨id, index, before.length, Nat.le_refl _, hlt, ?_, s, by simp, hid⟩
        exact (holds_append (by omega) id).1 hindex
      · exact ⟨id, index, later, by omega, hlt, hindex, hlater⟩
    · rintro ⟨id, index, later, hle, hlt, hindex, hlater⟩
      rcases Nat.lt_or_eq_of_le hle with hless | rfl
      · exact Or.inr ⟨id, index, later, hless, hlt, hindex, hlater⟩
      · obtain ⟨t, ht, hid⟩ := hlater
        simp only [List.getElem?_append_right (Nat.le_refl _), Nat.sub_self,
          List.getElem?_cons_zero, Option.some.injEq] at ht
        subst ht
        exact Or.inl ⟨id, hid, index, hlt, (holds_append (by omega) id).1 hindex⟩

theorem hasLoop_iff (sections : List RouteSection) :
    hasLoop sections = true ↔ ∃ id index later, index + 1 < later ∧
      Holds sections index id ∧ Holds sections later id := by
  have hnone : ∀ id, ([] : List (Int × Nat)).lookup id = firstIndex? [] id := fun _ => rfl
  rw [hasLoop]
  simpa using loopFrom_iff [] sections hnone

theorem holds_iff {sections : List RouteSection} {index : Nat} {id : Int} :
    Holds sections index id ↔ ∃ i : Fin sections.length, i = index ∧ id ∈ sections[i].primitives := by
  constructor
  · rintro ⟨s, hs, hid⟩
    obtain ⟨hlt, rfl⟩ := List.getElem?_eq_some_iff.1 hs
    exact ⟨⟨index, hlt⟩, rfl, hid⟩
  · rintro ⟨i, rfl, hid⟩
    exact ⟨sections[i], List.getElem?_eq_getElem i.isLt, hid⟩

/-- There is a loop exactly when two sections that are two or more places apart share a lane,
whatever lanes they have and however often. -/
theorem hasLoop_iff_shared (sections : List RouteSection) :
    hasLoop sections = true ↔ ∃ i j : Fin sections.length, (i : Nat) + 2 ≤ j ∧
      ∃ id, id ∈ sections[i].primitives ∧ id ∈ sections[j].primitives := by
  simp only [hasLoop_iff, holds_iff]
  constructor
  · rintro ⟨id, index, later, hlt, ⟨i, rfl, hi⟩, ⟨j, rfl, hj⟩⟩
    exact ⟨i, j, hlt, id, hi, hj⟩
  · rintro ⟨i, j, hlt, id, hi, hj⟩
    exact ⟨id, i, j, hlt, ⟨i, rfl, hi⟩, ⟨j, rfl, hj⟩⟩

end LaneRoute.RouteSections
