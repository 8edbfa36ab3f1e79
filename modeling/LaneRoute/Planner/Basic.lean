import LaneRoute.Goal.Check
import LaneRoute.Goal.Refine
import LaneRoute.Planner.Settings
import LaneRoute.Route.Basic

/-!
# Planners

A planner is given a map and then plans routes through checkpoints. It holds the route that is
being followed, but only on behalf of its user: planning neither reads nor changes it.
-/

set_option autoImplicit false

namespace LaneRoute

inductive PlanningResult where
  | none
  | success
  | searchFailure
  | goalInvalid
  | loopDetected
deriving DecidableEq

def PlanningResult.name : PlanningResult → String
  | none => "NONE"
  | success => "SUCCESS"
  | searchFailure => "SEARCH_FAILURE"
  | goalInvalid => "GOAL_INVALID"
  | loopDetected => "LOOP_DETECTED"

/-- The settings of a planner, which may be changed to anything. What is no number is a fault,
though only where it is used as one. -/
abbrev Planner.Parameters (α : Type) := Settings (Except Fault α)

structure LoadedMap (α : Type) where
  network : RoadNetwork α
  rules : GoalRules α
  goalResolution : Except Fault α
  elevationResolution : Except Fault α
  memory : GoalMemory α

inductive PlannerState where
  | idle
  | ready
  | planning
deriving DecidableEq

def PlannerState.name : PlannerState → String
  | idle => "IDLE"
  | ready => "READY"
  | planning => "PLANNING"

/-- A planner is idle as long as it has no map. -/
structure Planner (α : Type) where
  settings : Planner.Parameters α
  vehicle : Vehicle α
  state : PlannerState
  loaded : Option (LoadedMap α)
  route : Option (Route α)
  lastResult : PlanningResult
  idle_iff : state = .idle ↔ loaded = none

namespace Planner

variable {α : Type}

def create (settings : Settings α) (vehicle : Vehicle α) : Planner α :=
  ⟨settings.map .ok, vehicle, .idle, none, none, .none, by simp⟩

/-- The only kind of planner there is. -/
def checkType (type : Document) : Except Fault Unit :=
  match type with
  | .text "default" => .ok ()
  | _ => .error (.noSuchPlanner type)

def isReady (p : Planner α) : Bool := p.state ≠ .idle

def stateName (p : Planner α) : String := p.state.name

def setMap (p : Planner α) (network : RoadNetwork α) : Planner α :=
  { p with
    state := .ready
    loaded := some {
      network := network
      rules := {
        vehicle := p.vehicle
        maxAngle := p.settings.goalAngle
        checkFootprint := p.settings.checkFootprint
        searchMargin := p.settings.searchMargin }
      goalResolution := p.settings.goalResolution
      elevationResolution := p.settings.elevationResolution
      memory := .fresh }
    route := none
    idle_iff := by simp }

def updateRoute (p : Planner α) (route : Option (Route α)) : Planner α := { p with route := route }

def clearRoute (p : Planner α) : Planner α := { p with route := none }

variable [Planar α]

/-! ## Planning -/

def legs : List (Pose α) → List (Pose α × Pose α)
  | a :: b :: rest => (a, b) :: legs (b :: rest)
  | _ => []

/-- Append ids, leaving out those that repeat the last one. -/
def join (path : List Int) (ids : List Int) : List Int :=
  ids.foldl (fun path id => if path.getLast? = some id then path else path ++ [id]) path

def joinedPath (net : RoadNetwork α) (avoid : Bool) (path : List Int) :
    List (Pose α × Pose α) → Report (Notice α) (Option (List Int))
  | [] => pure (some path)
  | leg :: rest => do
    match ← net.pathBetweenPoses leg.1 leg.2 avoid with
    | none =>
      Report.notice .routeFailed
      return none
    | some ids => joinedPath net avoid (join path ids) rest

structure Draft (α : Type) where
  path : List Int
  sections : List RouteSection
  goal : Pose α

def correctedGoal (p : Planner α) (m : LoadedMap α) (goal : Pose α) : Except Fault (Pose α) :=
  match m.network.segmentUnder? goal with
  | none => .ok goal
  | some _ => do m.network.refineLateral p.vehicle (← m.goalResolution) goal

def draft (p : Planner α) (m : LoadedMap α) (checkpoints : List (Pose α)) (goal : Pose α) :
    Report (Notice α) (Option (Draft α)) := do
  match ← joinedPath m.network p.settings.avoidUndrivable [] (legs checkpoints) with
  | none => return none
  | some path =>
    let sections ← Report.ofExcept (RouteSections.ofPath m.network path)
    if p.settings.correctGoal then
      return some ⟨path, sections, ← Report.ofExcept (p.correctedGoal m goal)⟩
    else return some ⟨path, sections, goal⟩

def finish (m : LoadedMap α) (start : Pose α) (d : Draft α) (admissible : Bool) :
    Report (Notice α) (Route α × PlanningResult) := do
  if !admissible then
    Report.notice .goalInvalid
    return (Route.empty, .goalInvalid)
  else if RouteSections.hasLoop d.sections then
    Report.notice .loopDetected
    return (Route.empty, .loopDetected)
  else match d.sections.getLast? with
    | none => Report.ofExcept (.error .outOfRange)
    | some last =>
      let goal ← Report.ofExcept do
        m.network.refineElevation (← m.elevationResolution) d.goal last.preferred
      let spelled := RouteSections.spelled m.network d.path
      return (⟨some start, some goal, d.sections, spelled⟩, .success)

def planOn (p : Planner α) (m : LoadedMap α) (checkpoints : List (Pose α)) (start goal : Pose α) :
    GoalMemory α × Report (Notice α) (Route α × PlanningResult) :=
  let drafted := p.draft m checkpoints goal
  match drafted.result with
  | .error fault => (m.memory, ⟨drafted.notices, .error fault⟩)
  | .ok none => (m.memory, ⟨drafted.notices, .ok (Route.empty, .searchFailure)⟩)
  | .ok (some d) =>
    let verdict := m.network.checkGoal m.rules d.goal d.path
    let rest := do
      let admissible ← verdict.report
      finish m start d admissible
    (m.memory.record verdict, ⟨drafted.notices ++ rest.notices, rest.result⟩)

def occupy (p : Planner α) (m : LoadedMap α) : Planner α :=
  { p with state := .planning, loaded := some m, idle_iff := by simp }

def release (p : Planner α) (m : LoadedMap α) (memory : GoalMemory α) : Planner α :=
  { p with state := .ready, loaded := some { m with memory := memory }, idle_iff := by simp }

@[simp] theorem planOn_occupy (p : Planner α) (m m' : LoadedMap α) (checkpoints : List (Pose α))
    (start goal : Pose α) :
    (p.occupy m).planOn m' checkpoints start goal = p.planOn m' checkpoints start goal := rfl

/-- Plan a route from the first checkpoint over those between to the last one. The result is
kept unless planning breaks off. -/
def plan (p : Planner α) (checkpoints : List (Pose α)) :
    Planner α × Report (Notice α) (Route α) :=
  match p.loaded with
  | none => (p, ⟨[.mapNotSet], .error (.noMap .route)⟩)
  | some m =>
    match checkpoints with
    | start :: next :: rest =>
      let goal := (next :: rest).getLast (by simp)
      let busy := p.occupy m
      let (memory, outcome) := busy.planOn m checkpoints start goal
      let p := busy.release m memory
      match outcome.result with
      | .error fault => (p, ⟨outcome.notices, .error fault⟩)
      | .ok (route, result) => ({ p with lastResult := result }, ⟨outcome.notices, .ok route⟩)
    | few => (p, ⟨[], .error (.tooFewCheckpoints few.length)⟩)

def remember (p : Planner α) (memory : GoalMemory α) : Planner α :=
  { p with
    loaded := p.loaded.map fun m => { m with memory := memory }
    idle_iff := by simpa using p.idle_iff }

def checkGoal (p : Planner α) (goal : Pose α) (preceding : List Int) :
    Planner α × Report (Notice α) Bool :=
  match p.loaded with
  | none => (p, ⟨[], .error (.noMap .goalCheck)⟩)
  | some m =>
    let verdict := m.network.checkGoal m.rules goal preceding
    (p.remember (m.memory.record verdict), verdict.report)

/-! ## Markers -/

/-- What is shown of a route: all its lanes, the preferred ones, the others, and the footprint
of the last goal check that reached one. -/
structure Markers (α : Type) where
  lanes : List Int
  preferred : List Int
  others : List Int
  footprint : Option (Ring α)

omit [Planar α] in
def markers (p : Planner α) (route : Route α) : Markers α where
  lanes := route.sections.flatMap (·.primitives)
  preferred := route.sections.flatMap fun s => s.primitives.filter (· = s.preferred)
  others := route.sections.flatMap fun s => s.primitives.filter (· ≠ s.preferred)
  footprint := p.loaded.bind (·.memory.footprint)

def visualize (p : Planner α) (route : Option (Route α)) : Except Fault (Markers α) :=
  match route with
  | some r => .ok (p.markers r)
  | none => .error .noSuchPart

end Planner

end LaneRoute
