import LaneRoute.Proofs.Planner.Joined
import LaneRoute.Proofs.Planner.Outcome
import LaneRoute.Proofs.Route.Runs
import Mathlib.Order.Monotone.Defs

/-!
# Stops

A planned route calls at its checkpoints in their order. The stop for a checkpoint is the
section of the place at which the path of the leg to it ends; neither joining paths nor folding
them into sections lets such a place go or changes the order of two of them.
-/

set_option autoImplicit false

namespace LaneRoute.Planner

open RouteSections

variable {α : Type} [Planar α]

/-- A route that calls at checkpoints in their order, over roads and without a loop. -/
structure Calls (p : Planner α) (m : LoadedMap α) (checkpoints : List (Pose α))
    (route : Route α) : Prop where
  nonempty : route.sections ≠ []
  preferred : ∀ s ∈ route.sections, s.preferred ∈ s.primitives
  roads : ∀ s ∈ route.sections, ∀ id ∈ s.primitives, m.network.isRoad id = true
  apart : ∀ id index later, Holds route.sections index id → Holds route.sections later id →
    later ≤ index + 1
  stops : ∃ stop : Nat → Nat, Monotone stop ∧ stop 0 = 0 ∧
    stop (checkpoints.length - 1) = route.sections.length - 1 ∧
    (∃ start ∈ checkpoints.head?, ∃ id ∈ m.network.startCandidates start,
      Holds route.sections (stop 0) id) ∧
    ∀ index goal, checkpoints[index + 1]? = some goal →
      ∃ id ∈ m.network.goalCandidates goal, Holds route.sections (stop (index + 1)) id
  arrives : ∃ goal ∈ checkpoints.getLast?, ∃ s ∈ route.sections.getLast?,
    s.preferred ∈ m.network.goalCandidates goal
  started : ∃ start ∈ checkpoints.head?, route.start = some start
  ended : ∃ goal ∈ checkpoints.getLast?, ∃ target reached, p.Aims m goal target ∧
    route.goal = some reached ∧ reached.x = target.x ∧ reached.y = target.y ∧
    reached.yaw = target.yaw

/-! ## Paths of legs -/

section Legs

variable {net : RoadNetwork α} {avoid : Bool} {leg : Pose α × Pose α} {ids : List Int}

theorem Travels.ends (h : Travels net avoid leg ids) :
    (∃ s ∈ net.startCandidates leg.1, ids.head? = some s) ∧
      ∃ t ∈ net.goalCandidates leg.2, ids.getLast? = some t := by
  obtain ⟨s, hs, t, ht, cost, hwalk, -⟩ := RoadNetwork.walk_of_pathBetweenPoses h
  exact ⟨⟨s, hs, hwalk.ends.1⟩, t, ht, hwalk.ends.2⟩

theorem Travels.ne_nil (h : Travels net avoid leg ids) : ids ≠ [] := by
  obtain ⟨⟨s, -, hs⟩, -⟩ := h.ends
  rintro rfl
  simp at hs

theorem Travels.isChain_ne (h : Travels net avoid leg ids) : ids.IsChain (· ≠ ·) := by
  obtain ⟨s, -, t, -, cost, -, hnodup⟩ := RoadNetwork.walk_of_pathBetweenPoses h
  exact hnodup.isChain

theorem Travels.isChain (h : Travels net avoid leg ids) (ha : net.Accepted) :
    ids.IsChain net.Leads := by
  obtain ⟨s, -, t, -, cost, hwalk, -⟩ := RoadNetwork.walk_of_pathBetweenPoses h
  exact hwalk.isChain.imp fun _ _ hjoins => (RoadNetwork.joins_graph ha).1 hjoins

theorem Travels.isRoad (h : Travels net avoid leg ids) (ha : net.Accepted) :
    ∀ id ∈ ids, net.isRoad id = true := by
  obtain ⟨s, -, t, -, cost, hwalk, -⟩ := RoadNetwork.walk_of_pathBetweenPoses h
  exact fun id hid => (RoadNetwork.mem_nodes_graph ha).1
    (hwalk.mem_nodes (RoadNetwork.closed_graph ha) id hid)

end Legs

/-! ## Planned routes -/

section Routes

variable {p : Planner α} {m : LoadedMap α} {checkpoints : List (Pose α)} {route : Route α}
  {path : List Int} {target : Pose α}

theorem exists_travels {net : RoadNetwork α} {avoid : Bool} {paths : List (List Int)}
    (h : List.Forall₂ (Travels net avoid) (legs checkpoints) paths) {index : Nat} {goal : Pose α}
    (hgoal : checkpoints[index + 1]? = some goal) :
    ∃ start ids, checkpoints[index]? = some start ∧ paths[index]? = some ids ∧
      Travels net avoid (start, goal) ids := by
  obtain ⟨hlt, -⟩ := List.getElem?_eq_some_iff.1 hgoal
  have hstart : checkpoints[index]? = some checkpoints[index] :=
    List.getElem?_eq_getElem (by omega)
  obtain ⟨ids, hids, htravels⟩ := exists_of_forall₂ h (getElem?_legs hstart hgoal)
  exact ⟨_, ids, hstart, hids, htravels⟩

theorem isRoad_of_joined {net : RoadNetwork α} {avoid : Bool} {pairs : List (Pose α × Pose α)}
    (h : (joinedPath net avoid [] pairs).result = .ok (some path)) (ha : net.Accepted) :
    ∀ id ∈ path, net.isRoad id = true := by
  obtain ⟨paths, hpaths, rfl⟩ := exists_paths h
  intro id hid
  rcases mem_joined hid with hmem | ⟨ids, hids, hmem⟩
  · simp at hmem
  · obtain ⟨leg, -, htravels⟩ := exists_of_mem_forall₂ hpaths hids
    exact htravels.isRoad ha id hmem

theorem withoutRepeats_of_joined {net : RoadNetwork α} {avoid : Bool}
    {pairs : List (Pose α × Pose α)}
    (h : (joinedPath net avoid [] pairs).result = .ok (some path)) : withoutRepeats path = path := by
  obtain ⟨paths, -, rfl⟩ := exists_paths h
  exact withoutRepeats_of_isChain (isChain_ne_joined paths List.isChain_nil)

theorem Planned.isRoad (h : p.Planned m checkpoints route path target) (ha : m.network.Accepted) :
    ∀ id ∈ path, m.network.isRoad id = true := isRoad_of_joined h.joined ha

theorem Planned.withoutRepeats (h : p.Planned m checkpoints route path target) :
    withoutRepeats path = path := withoutRepeats_of_joined h.joined

theorem Planned.nonempty (h : p.Planned m checkpoints route path target) :
    route.sections ≠ [] := by
  obtain ⟨last, hlast, -⟩ := h.ended
  rintro hnil
  simp [hnil] at hlast

theorem exists_goalCandidate {net : RoadNetwork α} {avoid : Bool} {paths : List (List Int)}
    (h : List.Forall₂ (Travels net avoid) (legs checkpoints) paths) {index : Nat} {goal : Pose α}
    (hgoal : checkpoints[index + 1]? = some goal) :
    ∃ t ∈ net.goalCandidates goal,
      (paths.foldl join [])[place paths (index + 1)]? = some t := by
  obtain ⟨start, ids, -, hids, htravels⟩ := exists_travels h hgoal
  obtain ⟨t, ht, hlast⟩ := htravels.ends.2
  exact ⟨t, ht, (getElem?_place hids htravels.ne_nil).trans hlast⟩

theorem exists_startCandidate {net : RoadNetwork α} {avoid : Bool} {paths : List (List Int)}
    (h : List.Forall₂ (Travels net avoid) (legs checkpoints) paths)
    (hseveral : 2 ≤ checkpoints.length) :
    ∃ start ∈ checkpoints.head?, ∃ s ∈ net.startCandidates start,
      (paths.foldl join [])[0]? = some s := by
  have hgoal : checkpoints[0 + 1]? = some checkpoints[1] := List.getElem?_eq_getElem hseveral
  obtain ⟨start, ids, hstart, hids, htravels⟩ := exists_travels h hgoal
  obtain ⟨s, hs, hfirst⟩ := htravels.ends.1
  refine ⟨start, List.head?_eq_getElem?.trans hstart, s, hs, ?_⟩
  exact (getElem?_joined_zero hids htravels.isChain_ne htravels.ne_nil).trans hfirst

theorem Planned.calls (h : p.Planned m checkpoints route path target)
    (ha : m.network.Accepted) : p.Calls m checkpoints route := by
  obtain ⟨ids, runs, hruns, hcarries⟩ := exists_runs h.folded
  obtain ⟨paths, hpaths, hpath⟩ := exists_paths h.joined
  rw [h.withoutRepeats] at hruns
  have hlength : paths.length = checkpoints.length - 1 :=
    hpaths.length_eq.symm.trans (length_legs checkpoints)
  have hnil : ∀ run ∈ runs, run ≠ [] := by
    intro run hrun
    obtain ⟨s, -, hs⟩ := exists_of_mem_forall₂ hcarries.flip hrun
    exact Carries.ne_nil hs
  have hsection : ∀ s ∈ route.sections, ∃ run ∈ runs, Carries m.network ids run s :=
    fun s hs => exists_of_mem_forall₂ hcarries hs
  -- from here on only places of the path matter: each lies in the section of its run
  have hholds : ∀ place id, path[place]? = some id →
      Holds route.sections (runIndex runs place) id := by
    intro place id hid
    exact holds_runIndex hcarries (hruns ▸ hid)
  refine ⟨h.nonempty, ?preferred, ?roads, ?apart, ?stops, ?arrives, h.started, ?ended⟩
  case preferred =>
    intro s hs
    obtain ⟨run, -, hcarry⟩ := hsection s hs
    exact hcarry.preferred_mem
  case roads =>
    intro s hs
    obtain ⟨run, hrun, hcarry⟩ := hsection s hs
    apply hcarry.isRoad
    intro id hid
    exact h.isRoad ha id (hruns ▸ List.mem_flatten.2 ⟨run, hrun, hid⟩)
  case apart =>
    intro id index later hindex hlater
    by_contra hapart
    have hloop := (hasLoop_iff route.sections).2 ⟨id, index, later, by omega, hindex, hlater⟩
    rw [h.unlooped] at hloop
    cases hloop
  case stops =>
    refine ⟨fun index => runIndex runs (place paths index), ?_, runIndex_first hnil, ?_, ?_, ?_⟩
    · exact fun index later hle => runIndex_mono runs (place_mono paths hle)
    · simp only [← hlength, place_length, ← hpath, ← hruns, runIndex_last hnil,
        hcarries.length_eq]
    · obtain ⟨start, hstart, s, hs, hfirst⟩ := exists_startCandidate hpaths h.several
      exact ⟨start, hstart, s, hs, hholds 0 s (hpath ▸ hfirst)⟩
    · intro index goal hgoal
      obtain ⟨t, ht, hplace⟩ := exists_goalCandidate hpaths hgoal
      exact ⟨t, ht, hholds _ t (hpath ▸ hplace)⟩
  case arrives =>
    obtain ⟨goal, hgoal, -⟩ := h.aimed
    refine ⟨goal, hgoal, ?_⟩
    obtain ⟨index, hindex⟩ : ∃ index, checkpoints.length = index + 2 :=
      ⟨checkpoints.length - 2, by have := h.several; omega⟩
    rw [Option.mem_def, List.getLast?_eq_getElem?, hindex] at hgoal
    obtain ⟨t, ht, hplace⟩ := exists_goalCandidate hpaths hgoal
    rw [show index + 1 = paths.length by omega, place_length, ← hpath,
      ← List.getLast?_eq_getElem?, ← hruns, getLast?_flatten hcarries] at hplace
    obtain ⟨s, hs, rfl⟩ := Option.map_eq_some_iff.1 hplace
    exact ⟨s, hs, ht⟩
  case ended =>
    obtain ⟨goal, hgoal, haims⟩ := h.aimed
    obtain ⟨last, -, resolution, reached, -, helevated, hreached⟩ := h.ended
    exact ⟨goal, hgoal, target, reached, haims, hreached, eq_of_refineElevation helevated⟩

theorem isEmpty_iff_of_plan (hm : p.loaded = some m)
    (h : (p.plan checkpoints).2.result = .ok route) :
    route.isEmpty = true ↔ (p.plan checkpoints).1.lastResult ≠ .success := by
  rcases plan_eq_ok hm h with ⟨hsuccess, path, target, hplanned⟩ | ⟨hother, rfl⟩
  · simp [Route.isEmpty, hsuccess, hplanned.nonempty]
  · simp [Route.isEmpty, Route.empty, hother]

/-- What planning returns when it does not break off: a route that calls at the checkpoints if
it succeeded, and else a route without sections. -/
theorem plan_calls (ha : m.network.Accepted) (hm : p.loaded = some m)
    (h : (p.plan checkpoints).2.result = .ok route) :
    ((p.plan checkpoints).1.lastResult = .success → p.Calls m checkpoints route) ∧
      ((p.plan checkpoints).1.lastResult ≠ .success → route.sections = []) ∧
      (route.isEmpty = true ↔ (p.plan checkpoints).1.lastResult ≠ .success) := by
  have hempty := isEmpty_iff_of_plan hm h
  rcases plan_eq_ok hm h with ⟨hsuccess, path, target, hplanned⟩ | ⟨hother, rfl⟩
  · exact ⟨fun _ => hplanned.calls ha, fun hother => absurd hsuccess hother, hempty⟩
  · exact ⟨fun hsuccess => absurd hsuccess hother, fun _ => rfl, hempty⟩

end Routes

/-- At the crossing a route calls at a checkpoint on the first road and two on the second. -/
theorem crossing_calls : (crossingMap true).network.Accepted ∧
    ∃ route, ((crossingPlanner true).plan crossingCheckpoints).2.result = .ok route ∧
      (crossingPlanner true).Calls (crossingMap true) crossingCheckpoints route := by
  have ha : (crossingMap true).network.Accepted := RoadNetwork.accepted_crossing true
  obtain ⟨route, hroute, hsuccess⟩ := exists_crossingRoute true
  exact ⟨ha, route, hroute, (plan_calls ha (loaded_crossingPlanner true) hroute).1 hsuccess⟩

end LaneRoute.Planner
