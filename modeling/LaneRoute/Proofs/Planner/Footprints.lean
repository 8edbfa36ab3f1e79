import LaneRoute.Proofs.Goal.Admission
import LaneRoute.Proofs.Planner.Outcome

/-!
# Footprints on record

Which footprint is on record after goals were checked one after another. A check puts one on record
when it comes to a road; a goal on a shoulder is admitted before that, and what an earlier goal
left stays. So after a goal was admitted, and after a plan that succeeded, the footprint on record
is that of its goal unless the goal is on a shoulder and along it.
-/

set_option autoImplicit false

namespace LaneRoute

variable {α : Type} [Planar α]

namespace RoadNetwork

/-- The footprint that a check of a goal comes to: there is one when a road was found for a goal
that is not on a shoulder and along it. -/
def footprintAt? (net : RoadNetwork α) (rules : GoalRules α) (goal : Pose α) : Option (Ring α) :=
  match net.isOnAlignedShoulder rules goal, net.goalRoad? goal with
  | .ok false, some _ => (goal.placeRing (rules.vehicle.footprint 0 0)).toOption
  | _, _ => none

theorem footprint_checkGoal (net : RoadNetwork α) (rules : GoalRules α) (goal : Pose α)
    (preceding : List Int) :
    (net.checkGoal rules goal preceding).footprint = net.footprintAt? rules goal := by
  unfold checkGoal footprintAt?
  rcases net.isOnAlignedShoulder rules goal with fault | _ | _
  · rfl
  · cases net.goalRoad? goal with
    | none => rfl
    | some road =>
      cases goal.placeRing (rules.vehicle.footprint 0 0) with
      | error fault => rfl
      | ok footprint =>
        simp only [checkAtRoad]
        rcases net.hasRoom rules goal road preceding footprint with fault | _ | _
        · rfl
        · rfl
        · rcases net.isPlaced rules goal road with fault | _ | _ <;> rfl
  · rfl

theorem footprintAt?_of_admitted {net : RoadNetwork α} {rules : GoalRules α} {goal : Pose α}
    {preceding : List Int} (h : (net.checkGoal rules goal preceding).report.result = .ok true) :
    (net.isOnAlignedShoulder rules goal = .ok true ∧ net.footprintAt? rules goal = none) ∨
    (net.isOnAlignedShoulder rules goal = .ok false ∧ ∃ footprint,
      goal.placeRing (rules.vehicle.footprint 0 0) = .ok footprint ∧
      net.footprintAt? rules goal = some footprint) := by
  rcases checkGoal_eq_true_iff.1 h with hon | ⟨hoff, road, footprint, hroad, hplace, -, -⟩
  · exact Or.inl ⟨hon, by simp [footprintAt?, hon]⟩
  · exact Or.inr ⟨hoff, footprint, hplace, by simp [footprintAt?, hoff, hroad, hplace,
      Except.toOption]⟩

end RoadNetwork

namespace GoalMemory

def after (net : RoadNetwork α) (rules : GoalRules α) (memory : GoalMemory α)
    (calls : List (Pose α × List Int)) : GoalMemory α :=
  calls.foldl (fun memory call => memory.record (net.checkGoal rules call.1 call.2)) memory

def Shows (memory : GoalMemory α) (vehicle : Vehicle α) (goal : Pose α) : Prop :=
  ∃ footprint, goal.placeRing (vehicle.footprint 0 0) = .ok footprint ∧
    memory.footprint = some footprint

variable {net : RoadNetwork α} {rules : GoalRules α} {memory : GoalMemory α}
  {calls : List (Pose α × List Int)} {goal : Pose α} {preceding : List Int}

theorem after_append (more : List (Pose α × List Int)) :
    memory.after net rules (calls ++ more) = (memory.after net rules calls).after net rules more :=
  List.foldl_append

/-- The footprint on record is the last one that a check has come to. -/
theorem footprint_after :
    (memory.after net rules calls).footprint =
      ((calls.filterMap fun call => net.footprintAt? rules call.1).getLast?).or
        memory.footprint := by
  induction calls generalizing memory with
  | nil => rfl
  | cons call calls ih =>
    have hstep : memory.after net rules (call :: calls) =
        (memory.record (net.checkGoal rules call.1 call.2)).after net rules calls := rfl
    have hrecord : (memory.record (net.checkGoal rules call.1 call.2)).footprint =
        (net.footprintAt? rules call.1).or memory.footprint := by
      rw [← RoadNetwork.footprint_checkGoal net rules call.1 call.2]
      cases hfootprint : (net.checkGoal rules call.1 call.2).footprint <;> simp [record, hfootprint]
    rw [hstep, ih, hrecord]
    cases hfirst : net.footprintAt? rules call.1 with
    | none => simp [hfirst]
    | some footprint => cases hrest : calls.filterMap fun call => net.footprintAt? rules call.1 <;>
        simp [hfirst, hrest, List.getLast?_cons]

theorem shows_record_iff (h : (net.checkGoal rules goal preceding).report.result = .ok true) :
    (memory.record (net.checkGoal rules goal preceding)).Shows rules.vehicle goal ↔
      net.isOnAlignedShoulder rules goal = .ok false ∨ memory.Shows rules.vehicle goal := by
  have hfootprint := RoadNetwork.footprint_checkGoal net rules goal preceding
  rcases RoadNetwork.footprintAt?_of_admitted h with ⟨hon, hnone⟩ | ⟨hoff, footprint, hplace, hsome⟩
  · simp [Shows, record, hfootprint, hnone, hon]
  · simp [Shows, record, hfootprint, hsome, hoff, hplace]

end GoalMemory

/-! ## Elevations -/

omit [Planar α] in
theorem placeRing_elevated [Scalar α] (goal : Pose α) (z : α) (points : List (Point α)) :
    ({ goal with z := z } : Pose α).placeRing points = goal.placeRing points := rfl

theorem RoadNetwork.isOnAlignedShoulder_elevated (net : RoadNetwork α) (rules : GoalRules α)
    (goal : Pose α) (z : α) :
    net.isOnAlignedShoulder rules { goal with z := z } = net.isOnAlignedShoulder rules goal := rfl

namespace Planner

variable {p : Planner α} {m : LoadedMap α} {checkpoints : List (Pose α)} {route : Route α}

/-! ## Plans -/

theorem planOn_of_success {start goal : Pose α}
    (h : (p.planOn m checkpoints start goal).2.result = .ok (route, .success)) :
    ∃ target path z, (m.network.checkGoal m.rules target path).report.result = .ok true ∧
      (p.planOn m checkpoints start goal).1 =
        m.memory.record (m.network.checkGoal m.rules target path) ∧
      route.goal = some { target with z := z } := by
  simp only [planOn] at h ⊢
  cases hdraft : (p.draft m checkpoints goal).result with
  | error fault =>
    rw [hdraft] at h
    cases h
  | ok drafted =>
    cases drafted with
    | none =>
      rw [hdraft] at h
      cases h
    | some d =>
      rw [hdraft] at h
      obtain ⟨admissible, hadmissible, hfinish⟩ :=
        Fallible.bind_eq_ok.1 ((Report.result_bind _ _).symm.trans h)
      rcases finish_eq_ok hfinish with
        ⟨-, rfl, -, -, -, last, -, resolution, elevated, -, hz, hgoal⟩ | ⟨hfailed, -⟩
      · obtain ⟨hx, hy, hyaw⟩ := eq_of_refineElevation hz
        refine ⟨d.goal, d.path, elevated.z, hadmissible, rfl, ?_⟩
        rw [hgoal, ← hx, ← hy, ← hyaw]
      · exact absurd rfl hfailed

theorem plan_of_success (hm : p.loaded = some m)
    (h : (p.plan checkpoints).2.result = .ok route)
    (hsuccess : (p.plan checkpoints).1.lastResult = .success) :
    ∃ target path z, (m.network.checkGoal m.rules target path).report.result = .ok true ∧
      (p.plan checkpoints).1.loaded =
        some { m with memory := m.memory.record (m.network.checkGoal m.rules target path) } ∧
      route.goal = some { target with z := z } := by
  rcases checkpoints with _ | ⟨start, _ | ⟨next, rest⟩⟩
  · simp [plan, hm] at h
  · simp [plan, hm] at h
  simp only [plan, hm, planOn_occupy] at h hsuccess ⊢
  split at h
  next => cases h
  next planned result hresult =>
    cases h
    rw [hresult] at hsuccess
    obtain rfl : result = .success := hsuccess
    obtain ⟨target, path, z, hadmitted, hmemory, hgoal⟩ := planOn_of_success hresult
    refine ⟨target, path, z, hadmitted, ?_, hgoal⟩
    rw [← hmemory]
    rfl

/-- After any checks of goals, of which the last goal was admitted, the footprint on record is that
at this goal when the goal is not on a shoulder and along it. When it is, the footprint is the last
one that the earlier checks have come to, so that of another goal unless the two are the same. And
after a plan that succeeded the footprint that is shown is that at the goal of the plan when this
goal is not on a shoulder and along it, or when the footprint was on record before. -/
theorem shows_goal_iff :
    (∀ (net : RoadNetwork α) (rules : GoalRules α) (calls : List (Pose α × List Int))
      (goal : Pose α) (preceding : List Int),
      (net.checkGoal rules goal preceding).report.result = .ok true →
      let memory := GoalMemory.fresh.after net rules (calls ++ [(goal, preceding)])
      let earlier := (calls.filterMap fun call => net.footprintAt? rules call.1).getLast?
      (memory.Shows rules.vehicle goal ↔ net.isOnAlignedShoulder rules goal = .ok false ∨
        ∃ footprint, goal.placeRing (rules.vehicle.footprint 0 0) = .ok footprint ∧
          earlier = some footprint) ∧
      (net.isOnAlignedShoulder rules goal = .ok true → memory.footprint = earlier)) ∧
    ∀ (p : Planner α) (m : LoadedMap α) (checkpoints : List (Pose α)) (route : Route α),
      p.loaded = some m → (p.plan checkpoints).2.result = .ok route →
      (p.plan checkpoints).1.lastResult = .success →
      ∃ goal shown, route.goal = some goal ∧
        (p.plan checkpoints).1.visualize (some route) = .ok shown ∧
        ((∃ footprint, goal.placeRing (m.rules.vehicle.footprint 0 0) = .ok footprint ∧
            shown.footprint = some footprint) ↔
          m.network.isOnAlignedShoulder m.rules goal = .ok false ∨
            m.memory.Shows m.rules.vehicle goal) := by
  constructor
  · intro net rules calls goal preceding h
    have hbefore : (GoalMemory.fresh.after net rules calls).footprint =
        (calls.filterMap fun call => net.footprintAt? rules call.1).getLast? := by
      rw [GoalMemory.footprint_after]
      exact Option.or_none
    rw [GoalMemory.after_append]
    refine ⟨?_, fun hon => ?_⟩
    · rw [← hbefore]
      exact GoalMemory.shows_record_iff h
    · have hnone : net.footprintAt? rules goal = none := by simp [RoadNetwork.footprintAt?, hon]
      rw [GoalMemory.footprint_after, ← hbefore]
      simp [hnone]
  · intro p m checkpoints route hm h hsuccess
    obtain ⟨target, path, z, hadmitted, hloaded, hgoal⟩ := plan_of_success hm h hsuccess
    refine ⟨_, _, hgoal, rfl, ?_⟩
    rw [placeRing_elevated, RoadNetwork.isOnAlignedShoulder_elevated]
    simp only [markers, hloaded, Option.bind_some]
    exact GoalMemory.shows_record_iff hadmitted

/-! ## A lay-by -/

open RoadNetwork (plainRoad link)

def laybyLanes : List (Segment Rat) :=
  [plainRoad 1 [⟨0, 4, 0⟩, ⟨40, 4, 0⟩] [⟨0, -4, 0⟩, ⟨40, -4, 0⟩] [],
   { plainRoad 2 [⟨0, -4, 0⟩, ⟨40, -4, 0⟩] [⟨0, -8, 0⟩, ⟨40, -8, 0⟩] [] with
      kind := .shoulder
      left := ⟨some 1, .ofBool true, .ofBool false⟩ }]

def layby : RoadNetwork Rat := ⟨link laybyLanes, [], [], 2⟩

theorem accepted_layby : layby.Accepted := by
  have hcheck : (RoadNetwork.check laybyLanes).isOk := by decide +kernel
  have hids : (laybyLanes.map (·.id)).Pairwise (· ≤ ·) := by simp [laybyLanes, plainRoad]
  exact RoadNetwork.accepted_of_ascending hcheck hids [] [] 2

def laybyPlanner : Planner Rat := (create crossingSettings crossingVehicle).setMap layby

def laybyMap : LoadedMap Rat where
  network := layby
  rules := ⟨crossingVehicle, .ok 45, true, .ok 2⟩
  goalResolution := .ok 1
  elevationResolution := .ok 5
  memory := .fresh

def onRoad : Pose Rat := ⟨10, 0, 0, 0⟩

def onShoulder : Pose Rat := ⟨20, -6, 0, 0⟩

theorem admitted_onRoad :
    (layby.checkGoal laybyMap.rules onRoad [1]).report.result = .ok true :=
  Fallible.ok_of_toOption (by decide +kernel)

theorem admitted_onShoulder :
    (layby.checkGoal laybyMap.rules onShoulder [1]).report.result = .ok true :=
  Fallible.ok_of_toOption (by decide +kernel)

theorem apart_onRoad : layby.isOnAlignedShoulder laybyMap.rules onRoad = .ok false :=
  Fallible.ok_of_toOption (by decide +kernel)

/-- A goal on the road shows its footprint, checked alone or planned to. -/
theorem layby_shows_road : layby.Accepted ∧
    (layby.checkGoal laybyMap.rules onRoad [1]).report.result = .ok true ∧
    (GoalMemory.fresh.after layby laybyMap.rules [(onRoad, [1])]).Shows crossingVehicle onRoad ∧
    ∃ route goal shown, (laybyPlanner.plan [⟨5, 0, 0, 0⟩, onRoad]).2.result = .ok route ∧
      (laybyPlanner.plan [⟨5, 0, 0, 0⟩, onRoad]).1.lastResult = .success ∧
      route.goal = some goal ∧
      (laybyPlanner.plan [⟨5, 0, 0, 0⟩, onRoad]).1.visualize (some route) = .ok shown ∧
        ((∃ footprint, goal.placeRing (crossingVehicle.footprint 0 0) = .ok footprint ∧
            shown.footprint = some footprint) ↔
          layby.isOnAlignedShoulder laybyMap.rules goal = .ok false ∨
            GoalMemory.fresh.Shows crossingVehicle goal) := by
  have hsome : (laybyPlanner.plan [⟨5, 0, 0, 0⟩, onRoad]).2.result.toOption.isSome := by
    decide +kernel
  obtain ⟨route, hroute⟩ := Option.isSome_iff_exists.1 hsome
  have hplan := Fallible.ok_of_toOption hroute
  have hsuccess : (laybyPlanner.plan [⟨5, 0, 0, 0⟩, onRoad]).1.lastResult = .success := by
    decide +kernel
  obtain ⟨hchecks, hplans⟩ := shows_goal_iff (α := Rat)
  have hshows := (hchecks layby laybyMap.rules [] onRoad [1] admitted_onRoad).1
  obtain ⟨goal, shown, hgoal, hshown, hiff⟩ :=
    hplans laybyPlanner laybyMap _ route rfl hplan hsuccess
  exact ⟨accepted_layby, admitted_onRoad, hshows.2 (Or.inl apart_onRoad), route, goal, shown,
    hplan, hsuccess, hgoal, hshown, hiff⟩

/-- After a goal on the road and then one on the shoulder were admitted, the footprint on record is
still that at the first goal. -/
theorem layby_shows_earlier :
    (layby.checkGoal laybyMap.rules onRoad [1]).report.result = .ok true ∧
    (layby.checkGoal laybyMap.rules onShoulder [1]).report.result = .ok true ∧
    let memory := GoalMemory.fresh.after layby laybyMap.rules [(onRoad, [1]), (onShoulder, [1])]
    memory.Shows crossingVehicle onRoad ∧ ¬ memory.Shows crossingVehicle onShoulder := by
  refine ⟨admitted_onRoad, admitted_onShoulder, ?_, ?_⟩
  · have hnone : layby.footprintAt? laybyMap.rules onShoulder = none :=
      Option.not_isSome_iff_eq_none.1 (by decide +kernel)
    rcases RoadNetwork.footprintAt?_of_admitted admitted_onRoad with
      ⟨hon, -⟩ | ⟨-, footprint, hplace, hsome⟩
    · rw [apart_onRoad] at hon
      cases hon
    · refine ⟨footprint, hplace, ?_⟩
      rw [GoalMemory.footprint_after]
      simp [hsome, hnone]
  · rintro ⟨footprint, hplace, hrecord⟩
    have hleft : ((GoalMemory.fresh.after layby laybyMap.rules
        [(onRoad, [1]), (onShoulder, [1])]).footprint.map (·.box.minX)) ≠
        (onShoulder.placeRing (crossingVehicle.footprint 0 0)).toOption.map (·.box.minX) := by
      decide +kernel
    rw [hplace, hrecord] at hleft
    exact hleft rfl

end Planner

end LaneRoute
