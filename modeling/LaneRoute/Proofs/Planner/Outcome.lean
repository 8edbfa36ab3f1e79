import LaneRoute.Proofs.Network.Acceptance
import LaneRoute.Planner.Basic

/-!
# Outcomes

What a plan went through that did not break off. Either all of its steps succeeded and the
route holds what they gave, or the route is empty.
-/

set_option autoImplicit false

namespace LaneRoute.Planner

variable {α : Type} [Planar α]

/-- A target for a goal: the goal moved onto its lane if corrections are enabled, else the goal
itself. The resolution is asked for only when there is a lane. -/
def Aims (p : Planner α) (m : LoadedMap α) (goal target : Pose α) : Prop :=
  if p.settings.correctGoal then
    ∃ resolution, ((m.network.segmentUnder? goal).isSome → m.goalResolution = .ok resolution) ∧
      m.network.refineLateral p.vehicle resolution goal = .ok target
  else target = goal

/-- The steps of a plan that succeeded. -/
structure Planned (p : Planner α) (m : LoadedMap α) (checkpoints : List (Pose α))
    (route : Route α) (path : List Int) (target : Pose α) : Prop where
  several : 2 ≤ checkpoints.length
  joined : (joinedPath m.network p.settings.avoidUndrivable [] (legs checkpoints)).result
    = .ok (some path)
  folded : RouteSections.ofPath m.network path = .ok route.sections
  aimed : ∃ goal ∈ checkpoints.getLast?, p.Aims m goal target
  admitted : (m.network.checkGoal m.rules target path).report.result = .ok true
  unlooped : RouteSections.hasLoop route.sections = false
  started : ∃ start ∈ checkpoints.head?, route.start = some start
  ended : ∃ last ∈ route.sections.getLast?, ∃ resolution goal,
    m.elevationResolution = .ok resolution ∧
    m.network.refineElevation resolution target last.preferred = .ok goal ∧ route.goal = some goal

theorem aims_of_correctedGoal {p : Planner α} {m : LoadedMap α} {goal target : Pose α}
    (h : p.correctedGoal m goal = .ok target) :
    ∃ resolution, ((m.network.segmentUnder? goal).isSome → m.goalResolution = .ok resolution) ∧
      m.network.refineLateral p.vehicle resolution goal = .ok target := by
  unfold correctedGoal at h
  split at h
  next hnone =>
    cases h
    exact ⟨0, by simp [hnone], by simp [RoadNetwork.refineLateral, hnone]⟩
  next =>
    obtain ⟨resolution, hresolution, htarget⟩ := Fallible.bind_eq_ok.1 h
    exact ⟨resolution, fun _ => hresolution, htarget⟩

theorem eq_of_refineElevation {net : RoadNetwork α} {resolution : α} {pose elevated : Pose α}
    {id : Int} (h : net.refineElevation resolution pose id = .ok elevated) :
    elevated.x = pose.x ∧ elevated.y = pose.y ∧ elevated.yaw = pose.yaw := by
  obtain ⟨s, -, hrest⟩ := Fallible.bind_eq_ok.1 h
  obtain ⟨line, -, hpose⟩ := Fallible.bind_eq_ok.1 hrest
  obtain rfl := Fallible.pure_eq_ok.1 hpose
  split
  · exact ⟨rfl, rfl, rfl⟩
  · exact ⟨rfl, rfl, rfl⟩

theorem draft_eq_ok {p : Planner α} {m : LoadedMap α} {checkpoints : List (Pose α)}
    {goal : Pose α} {d : Draft α} (h : (p.draft m checkpoints goal).result = .ok (some d)) :
    (joinedPath m.network p.settings.avoidUndrivable [] (legs checkpoints)).result
        = .ok (some d.path) ∧
      RouteSections.ofPath m.network d.path = .ok d.sections ∧ p.Aims m goal d.goal := by
  rw [draft, Report.result_bind] at h
  obtain ⟨found, hfound, hrest⟩ := Fallible.bind_eq_ok.1 h
  cases found with
  | none => cases hrest
  | some path =>
    simp only [Report.result_bind, Report.result_ofExcept] at hrest
    obtain ⟨sections, hsections, hrest⟩ := Fallible.bind_eq_ok.1 hrest
    unfold Aims
    split at hrest
    next hcorrect =>
      rw [Report.result_bind, Report.result_ofExcept] at hrest
      obtain ⟨target, htarget, hd⟩ := Fallible.bind_eq_ok.1 hrest
      cases hd
      rw [if_pos hcorrect]
      exact ⟨hfound, hsections, aims_of_correctedGoal htarget⟩
    next hcorrect =>
      cases hrest
      rw [if_neg hcorrect]
      exact ⟨hfound, hsections, rfl⟩

theorem finish_eq_ok {m : LoadedMap α} {start : Pose α} {d : Draft α} {admissible : Bool}
    {route : Route α} {result : PlanningResult}
    (h : (finish m start d admissible).result = .ok (route, result)) :
    (result = .success ∧ admissible = true ∧ RouteSections.hasLoop d.sections = false ∧
      route.start = some start ∧ route.sections = d.sections ∧
      ∃ last ∈ d.sections.getLast?, ∃ resolution goal, m.elevationResolution = .ok resolution ∧
        m.network.refineElevation resolution d.goal last.preferred = .ok goal ∧
        route.goal = some goal) ∨
    (result ≠ .success ∧ route = Route.empty) := by
  unfold finish at h
  split at h
  next =>
    cases h
    exact Or.inr ⟨by decide, rfl⟩
  next hadmissible =>
    split at h
    next =>
      cases h
      exact Or.inr ⟨by decide, rfl⟩
    next hloop =>
      split at h
      next => cases h
      next last hlast =>
        rw [Report.result_bind, Report.result_ofExcept] at h
        obtain ⟨goal, hgoal, hroute⟩ := Fallible.bind_eq_ok.1 h
        obtain ⟨resolution, hresolution, helevated⟩ := Fallible.bind_eq_ok.1 hgoal
        cases hroute
        exact Or.inl ⟨rfl, by simpa using hadmissible, by simpa using hloop, rfl, rfl, last, hlast,
          resolution, goal, hresolution, helevated, rfl⟩

theorem planOn_eq_ok {p : Planner α} {m : LoadedMap α} {checkpoints : List (Pose α)}
    {start goal : Pose α} {route : Route α} {result : PlanningResult}
    (h : (p.planOn m checkpoints start goal).2.result = .ok (route, result))
    (hseveral : 2 ≤ checkpoints.length) (hstart : start ∈ checkpoints.head?)
    (hgoal : goal ∈ checkpoints.getLast?) :
    (result = .success ∧ ∃ path target, p.Planned m checkpoints route path target) ∨
    (result ≠ .success ∧ route = Route.empty) := by
  simp only [planOn] at h
  split at h
  next => cases h
  next =>
    cases h
    exact Or.inr ⟨PlanningResult.noConfusion, rfl⟩
  next d hdraft =>
    obtain ⟨admissible, hadmissible, hfinish⟩ :=
      Fallible.bind_eq_ok.1 ((Report.result_bind _ _).symm.trans h)
    obtain ⟨hjoined, hfolded, haims⟩ := draft_eq_ok hdraft
    apply (finish_eq_ok hfinish).imp_left
    rintro ⟨hresult, rfl, hloop, hstarted, hsections, hended⟩
    rw [← hsections] at hfolded hloop hended
    exact ⟨hresult, d.path, d.goal, hseveral, hjoined, hfolded, ⟨goal, hgoal, haims⟩, hadmissible,
      hloop, ⟨start, hstart, hstarted⟩, hended⟩

theorem plan_eq_ok {p : Planner α} {m : LoadedMap α} {checkpoints : List (Pose α)}
    {route : Route α} (hm : p.loaded = some m)
    (h : (p.plan checkpoints).2.result = .ok route) :
    ((p.plan checkpoints).1.lastResult = .success ∧
      ∃ path target, p.Planned m checkpoints route path target) ∨
    ((p.plan checkpoints).1.lastResult ≠ .success ∧ route = Route.empty) := by
  rcases checkpoints with _ | ⟨start, _ | ⟨next, rest⟩⟩
  · simp [plan, hm] at h
  · simp [plan, hm] at h
  have hgoal : (next :: rest).getLast (by simp) ∈ (start :: next :: rest).getLast? := by
    rw [List.getLast?_cons_cons, List.getLast?_eq_some_getLast (by simp)]
    exact rfl
  simp only [plan, hm, planOn_occupy] at h ⊢
  split at h
  next => cases h
  next planned result hresult =>
    cases h
    exact planOn_eq_ok hresult (by simp) rfl hgoal

/-! ## A planner at the crossing -/

def crossingSettings : Settings Rat where
  goalAngle := 45
  correctGoal := false
  avoidUndrivable := false
  checkFootprint := true
  searchMargin := 2
  laneChangeCost := 2
  goalResolution := 1
  elevationResolution := 5

def crossingVehicle : Vehicle Rat where
  wheelBase := 279 / 100
  wheelTread := 164 / 100
  frontOverhang := 1
  rearOverhang := 11 / 10
  leftOverhang := 128 / 1000
  rightOverhang := 128 / 1000
  height := 5 / 2

def crossingPlanner (linked : Bool) : Planner Rat :=
  (create crossingSettings crossingVehicle).setMap (RoadNetwork.crossing linked)

def crossingMap (linked : Bool) : LoadedMap Rat where
  network := RoadNetwork.crossing linked
  rules := ⟨crossingVehicle, .ok 45, true, .ok 2⟩
  goalResolution := .ok 1
  elevationResolution := .ok 5
  memory := .fresh

theorem loaded_crossingPlanner (linked : Bool) :
    (crossingPlanner linked).loaded = some (crossingMap linked) := rfl

def crossingCheckpoints : List (Pose Rat) :=
  [⟨5, 0, 0, 0⟩, ⟨20, 0, 0, Rational.quarterTurn⟩, ⟨20, 15, 0, Rational.quarterTurn⟩]

theorem exists_crossingRoute (linked : Bool) :
    ∃ route, ((crossingPlanner linked).plan crossingCheckpoints).2.result = .ok route ∧
      ((crossingPlanner linked).plan crossingCheckpoints).1.lastResult = .success := by
  have hsome : ((crossingPlanner linked).plan crossingCheckpoints).2.result.toOption.isSome := by
    cases linked <;> decide +kernel
  obtain ⟨route, hroute⟩ := Option.isSome_iff_exists.1 hsome
  exact ⟨route, Fallible.ok_of_toOption hroute, by cases linked <;> decide +kernel⟩

end LaneRoute.Planner
