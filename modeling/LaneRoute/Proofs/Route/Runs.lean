import LaneRoute.Proofs.Network.Lateral
import LaneRoute.Proofs.Route.Loop
import Mathlib.Data.List.Chain

/-!
# Runs

Sections come from runs of a path: each section holds the lanes beside the first segment of its
run, every segment of the run is one of them, and the last one is preferred. The places of the
path keep their order in the sections.
-/

set_option autoImplicit false

namespace LaneRoute.RouteSections

variable {α : Type}

theorem withoutRepeats_of_isChain {ids : List Int} (h : ids.IsChain (· ≠ ·)) :
    withoutRepeats ids = ids := by
  fun_induction withoutRepeats ids with
  | case1 a rest ih => exact absurd rfl (List.isChain_cons_cons.1 h).1
  | case2 a b rest hne ih => rw [ih (List.isChain_cons_cons.1 h).2]
  | case3 => rfl

theorem eq_of_make {preferred : Int} {primitives : List Int} {s : RouteSection}
    (h : RouteSection.make preferred primitives = .ok s) :
    s = ⟨preferred, primitives⟩ ∧ preferred ∈ primitives := by
  unfold RouteSection.make at h
  split at h
  next hmem =>
    cases h
    exact ⟨rfl, hmem⟩
  next => simp at h

/-! ## From a path to its sections -/

structure Carries (net : RoadNetwork α) (routeIds run : List Int) (s : RouteSection) : Prop where
  opened : ∃ first ∈ run.head?, ∃ lanes, net.lateralNeighbors first = .ok lanes ∧
    s.primitives = lanes.filter (· ∈ routeIds)
  last : run.getLast? = some s.preferred
  lanes : ∀ id ∈ run, id ∈ s.primitives

namespace Carries

variable {net : RoadNetwork α} {routeIds run : List Int} {s : RouteSection}

theorem preferred_mem (h : Carries net routeIds run s) : s.preferred ∈ s.primitives :=
  h.lanes _ (List.mem_of_getLast? h.last)

theorem ne_nil (h : Carries net routeIds run s) : run ≠ [] := by
  rintro rfl
  simpa using h.last

theorem single {id : Int} {lanes : List Int} (hlanes : net.lateralNeighbors id = .ok lanes)
    (hmem : id ∈ lanes.filter (· ∈ routeIds)) :
    Carries net routeIds [id] ⟨id, lanes.filter (· ∈ routeIds)⟩ :=
  ⟨⟨id, by simp, lanes, hlanes, rfl⟩, rfl, by simpa using hmem⟩

theorem extend (h : Carries net routeIds run s) {id : Int} (hmem : id ∈ s.primitives) :
    Carries net routeIds (run ++ [id]) ⟨id, s.primitives⟩ := by
  obtain ⟨first, hfirst, hlanes⟩ := h.opened
  refine ⟨⟨first, ?_, hlanes⟩, by simp, ?_⟩
  · simpa [List.head?_append_of_ne_nil _ h.ne_nil] using hfirst
  · intro i hi
    rcases List.mem_append.1 hi with hi | hi
    · exact h.lanes i hi
    · exact List.mem_singleton.1 hi ▸ hmem

end Carries

def Folded (net : RoadNetwork α) (routeIds ids : List Int) (sections : List RouteSection) : Prop :=
  ∃ runs, runs.reverse.flatten = ids ∧ List.Forall₂ (Carries net routeIds) runs sections

/-- One more segment opens a section, when it is not beside the preferred lane of the last one,
or stays in the last section. -/
theorem fold_cases {net : RoadNetwork α} {routeIds : List Int} {sections next : List RouteSection}
    {id : Int} (h : fold net routeIds sections id = .ok next) :
    (∃ lanes, net.lateralNeighbors id = .ok lanes ∧ id ∈ lanes.filter (· ∈ routeIds) ∧
      next = ⟨id, lanes.filter (· ∈ routeIds)⟩ :: sections ∧
      ∀ last ∈ sections.head?, ∃ beside,
        net.lateralNeighbors last.preferred = .ok beside ∧ id ∉ beside) ∨
    ∃ last before, sections = last :: before ∧ id ∈ last.primitives ∧
      next = ⟨id, last.primitives⟩ :: before := by
  cases sections with
  | nil =>
    obtain ⟨lanes, hlanes, hrest⟩ := Fallible.bind_eq_ok.1 h
    obtain ⟨s, hs, hnext⟩ := Fallible.bind_eq_ok.1 hrest
    cases hnext
    obtain ⟨rfl, hmem⟩ := eq_of_make hs
    exact Or.inl ⟨lanes, hlanes, hmem, rfl, by simp⟩
  | cons last before =>
    obtain ⟨beside, hbeside, hrest⟩ := Fallible.bind_eq_ok.1 h
    split at hrest
    · obtain ⟨s, hs, hnext⟩ := Fallible.bind_eq_ok.1 hrest
      cases hnext
      obtain ⟨rfl, hmem⟩ := eq_of_make hs
      exact Or.inr ⟨last, before, rfl, hmem, rfl⟩
    next hapart =>
      obtain ⟨lanes, hlanes, hrest⟩ := Fallible.bind_eq_ok.1 hrest
      obtain ⟨s, hs, hnext⟩ := Fallible.bind_eq_ok.1 hrest
      cases hnext
      obtain ⟨rfl, hmem⟩ := eq_of_make hs
      refine Or.inl ⟨lanes, hlanes, hmem, rfl, fun t ht => ?_⟩
      obtain rfl := Option.some.inj ht
      exact ⟨beside, hbeside, hapart⟩

theorem Folded.fold {net : RoadNetwork α} {routeIds ids : List Int}
    {sections next : List RouteSection} {id : Int} (h : Folded net routeIds ids sections)
    (hstep : fold net routeIds sections id = .ok next) : Folded net routeIds (ids ++ [id]) next := by
  obtain ⟨runs, rfl, hruns⟩ := h
  rcases fold_cases hstep with ⟨lanes, hlanes, hmem, rfl, -⟩ | ⟨last, before, rfl, hmem, rfl⟩
  · exact ⟨[id] :: runs, by simp, .cons (.single hlanes hmem) hruns⟩
  · cases hruns with
    | @cons run _ runs _ hrun hbefore =>
      exact ⟨(run ++ [id]) :: runs, by simp, .cons (hrun.extend hmem) hbefore⟩

theorem Folded.foldlM {net : RoadNetwork α} {routeIds ids path : List Int}
    {sections final : List RouteSection} (h : Folded net routeIds ids sections)
    (hpath : path.foldlM (RouteSections.fold net routeIds) sections = .ok final) :
    Folded net routeIds (ids ++ path) final := by
  induction path generalizing ids sections with
  | nil =>
    obtain rfl := Fallible.pure_eq_ok.1 hpath
    simpa using h
  | cons id path ih =>
    rw [List.foldlM_cons] at hpath
    obtain ⟨next, hnext, hrest⟩ := Fallible.bind_eq_ok.1 hpath
    simpa using ih (h.fold hnext) hrest

theorem exists_runs {net : RoadNetwork α} {path : List Int} {sections : List RouteSection}
    (h : ofPath net path = .ok sections) :
    ∃ ids runs, runs.flatten = withoutRepeats path ∧
      List.Forall₂ (Carries net ids) runs sections := by
  obtain ⟨ids, -, hrest⟩ := Fallible.bind_eq_ok.1 h
  obtain ⟨final, hfinal, hsections⟩ := Fallible.bind_eq_ok.1 hrest
  obtain rfl := Fallible.pure_eq_ok.1 hsections
  have hnone : Folded net ids [] [] := ⟨[], rfl, .nil⟩
  obtain ⟨runs, hruns, hcarries⟩ := hnone.foldlM hfinal
  exact ⟨ids, runs.reverse, by simpa using hruns, List.rel_reverse hcarries⟩

/-! ## Lanes of sections -/

theorem exists_of_forall₂ {β γ : Type} {R : β → γ → Prop} {bs : List β} {cs : List γ}
    (h : List.Forall₂ R bs cs) {index : Nat} {b : β} (hb : bs[index]? = some b) :
    ∃ c, cs[index]? = some c ∧ R b c := by
  obtain ⟨hlt, rfl⟩ := List.getElem?_eq_some_iff.1 hb
  exact ⟨_, List.getElem?_eq_getElem (h.length_eq ▸ hlt), h.get hlt (h.length_eq ▸ hlt)⟩

theorem exists_of_mem_forall₂ {β γ : Type} {R : β → γ → Prop} {bs : List β} {cs : List γ}
    (h : List.Forall₂ R bs cs) {c : γ} (hc : c ∈ cs) : ∃ b ∈ bs, R b c := by
  obtain ⟨index, hindex⟩ := List.mem_iff_getElem?.1 hc
  obtain ⟨b, hb, hr⟩ := exists_of_forall₂ h.flip hindex
  exact ⟨b, List.mem_of_getElem? hb, hr⟩

theorem Carries.isRoad {net : RoadNetwork α} {routeIds run : List Int} {s : RouteSection}
    (h : Carries net routeIds run s) (hrun : ∀ id ∈ run, net.isRoad id = true) :
    ∀ lane ∈ s.primitives, net.isRoad lane = true := by
  intro lane hlane
  obtain ⟨first, hfirst, lanes, hlanes, heq⟩ := h.opened
  rw [heq] at hlane
  exact RoadNetwork.isRoad_of_lateralNeighbors hlanes (hrun first (List.mem_of_head? hfirst))
    (List.mem_filter.1 hlane).1

/-! ## Places of a path -/

def runIndex : List (List Int) → Nat → Nat
  | [], _ => 0
  | run :: runs, place =>
    if place < run.length then 0 else runIndex runs (place - run.length) + 1

theorem runIndex_mono (runs : List (List Int)) {place later : Nat} (h : place ≤ later) :
    runIndex runs place ≤ runIndex runs later := by
  induction runs generalizing place later with
  | nil => exact Nat.le_refl _
  | cons run runs ih =>
    unfold runIndex
    split
    · exact Nat.zero_le _
    · rw [if_neg (by omega)]
      exact Nat.succ_le_succ (ih (by omega))

theorem mem_runIndex {runs : List (List Int)} {place : Nat} {id : Int}
    (h : runs.flatten[place]? = some id) : ∃ run, runs[runIndex runs place]? = some run ∧ id ∈ run := by
  induction runs generalizing place with
  | nil => simp at h
  | cons run runs ih =>
    rw [List.flatten_cons, List.getElem?_append] at h
    unfold runIndex
    split
    next hlt =>
      rw [if_pos hlt] at h
      exact ⟨run, rfl, List.mem_of_getElem? h⟩
    next hge =>
      rw [if_neg hge] at h
      exact ih h

theorem runIndex_first {runs : List (List Int)} (h : ∀ run ∈ runs, run ≠ []) :
    runIndex runs 0 = 0 := by
  cases runs with
  | nil => rfl
  | cons run runs =>
    have hrun := List.length_pos_iff.2 (h run (by simp))
    exact if_pos hrun

theorem runIndex_last {runs : List (List Int)} (h : ∀ run ∈ runs, run ≠ []) :
    runIndex runs (runs.flatten.length - 1) = runs.length - 1 := by
  induction runs with
  | nil => rfl
  | cons run runs ih =>
    have hrun := List.length_pos_iff.2 (h run (by simp))
    cases runs with
    | nil =>
      have hplace : run.length - 1 < run.length := by omega
      simp [runIndex, hplace]
    | cons next runs =>
      -- the last place lies behind the first run because the next one is not empty
      have hih := ih fun r hr => h r (by simp [hr])
      have hnext := List.length_pos_iff.2 (h next (by simp))
      simp only [List.flatten_cons, List.length_append, List.length_cons] at hih ⊢
      rw [runIndex, if_neg (by omega)]
      have hplace : run.length + (next.length + runs.flatten.length) - 1 - run.length
          = next.length + runs.flatten.length - 1 := by omega
      rw [hplace, hih]
      omega

theorem holds_runIndex {net : RoadNetwork α} {ids : List Int} {runs : List (List Int)}
    {sections : List RouteSection} (h : List.Forall₂ (Carries net ids) runs sections)
    {place : Nat} {id : Int} (hid : runs.flatten[place]? = some id) :
    Holds sections (runIndex runs place) id := by
  obtain ⟨run, hrun, hmem⟩ := mem_runIndex hid
  obtain ⟨s, hs, hcarries⟩ := exists_of_forall₂ h hrun
  exact ⟨s, hs, hcarries.lanes id hmem⟩

theorem getLast?_flatten {net : RoadNetwork α} {ids : List Int} {runs : List (List Int)}
    {sections : List RouteSection} (h : List.Forall₂ (Carries net ids) runs sections) :
    runs.flatten.getLast? = sections.getLast?.map (·.preferred) := by
  induction h with
  | nil => rfl
  | @cons run s runs sections hrun _ ih =>
    rw [List.flatten_cons, List.getLast?_append, ih, hrun.last]
    cases sections with
    | nil => rfl
    | cons next sections => simp [List.getLast?_cons]

end LaneRoute.RouteSections
