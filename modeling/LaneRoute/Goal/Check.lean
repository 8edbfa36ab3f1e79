import LaneRoute.Goal.Footprint
import LaneRoute.Network.Checkpoint
import LaneRoute.Vehicle

/-!
# Goal checks

Whether a goal may be planned to. It may when it lies on a shoulder and along it; else the
vehicle must fit into the lanes around the goal or stand in a parking lot, and the goal must
lie on a road and along it or in a parking area.
-/

set_option autoImplicit false

namespace LaneRoute

inductive GoalFailure where
  | none
  | noRoadSegment
  | footprintExceedsLane
  | invalidAngleOrPosition
deriving DecidableEq

def GoalFailure.name : GoalFailure → String
  | none => "NONE"
  | noRoadSegment => "NO_ROAD_SEGMENT"
  | footprintExceedsLane => "FOOTPRINT_EXCEEDS_LANE"
  | invalidAngleOrPosition => "INVALID_ANGLE_OR_POSITION"

/-- What a goal is checked against. The angle is in degrees. A limit that is no number is a
fault, though only where it is asked for. -/
structure GoalRules (α : Type) where
  vehicle : Vehicle α
  maxAngle : Except Fault α
  checkFootprint : Bool
  searchMargin : Except Fault α

def GoalRules.searchLength {α : Type} [Scalar α] (rules : GoalRules α) : Except Fault α :=
  rules.searchMargin.map (rules.vehicle.front + ·)

/-- The outcome of a check: why the goal is refused, the footprint if it was reached, and the
answer. -/
structure Verdict (α : Type) where
  failure : GoalFailure
  footprint : Option (Ring α)
  report : Report (Notice α) Bool

structure GoalMemory (α : Type) where
  failure : GoalFailure
  footprint : Option (Ring α)

namespace GoalMemory

variable {α : Type}

def fresh : GoalMemory α := ⟨.none, none⟩

/-- The failure is that of the last check; the footprint is the last one that was reached. -/
def record (memory : GoalMemory α) (verdict : Verdict α) : GoalMemory α :=
  ⟨verdict.failure, verdict.footprint <|> memory.footprint⟩

end GoalMemory

namespace Verdict

variable {α : Type}

def accepted (footprint : Option (Ring α)) : Verdict α := ⟨.none, footprint, pure true⟩

def refused (failure : GoalFailure) (footprint : Option (Ring α)) (why : Notice α) : Verdict α :=
  ⟨failure, footprint, ⟨[why], .ok false⟩⟩

def broken (footprint : Option (Ring α)) (fault : Fault) : Verdict α :=
  ⟨.none, footprint, ⟨[], .error fault⟩⟩

end Verdict

namespace RoadNetwork

variable {α : Type} [Planar α]

def isAligned (rules : GoalRules α) (goal : Pose α) (s : Segment α) : Except Fault Bool := do
  return isAlignedWithin (Angle.ofDegrees (← rules.maxAngle)) goal s

def isOnAlignedShoulder (net : RoadNetwork α) (rules : GoalRules α) (goal : Pose α) :
    Except Fault Bool :=
  match closest? (net.shouldersAt goal.point) goal with
  | some s => isAligned rules goal s
  | none => .ok false

/-- The road that a goal is checked against: the closest of those at the goal, else the
nearest one of all. -/
def goalRoad? (net : RoadNetwork α) (goal : Pose α) : Option (Segment α) :=
  closest? (net.roadsAt goal.point) goal <|> net.nearestRoad? goal.point

def hasRoom (net : RoadNetwork α) (rules : GoalRules α) (goal : Pose α) (road : Segment α)
    (preceding : List Int) (footprint : Ring α) : Except Fault Bool := do
  if rules.checkFootprint then
    let region ← net.combined preceding
    return (← net.footprintFits (← rules.searchLength) road.id region footprint)
      || inParkingLot net.parkingLots goal.point
  else return true

def isPlaced (net : RoadNetwork α) (rules : GoalRules α) (goal : Pose α) (road : Segment α) :
    Except Fault Bool := do
  if ← (if road.outline.isOn goal.point then isAligned rules goal road else pure false) then
    return true
  else if ← inParkingSpace net.parkingSpaces goal.point then return true
  else return inParkingLot net.parkingLots goal.point

def checkAtRoad (net : RoadNetwork α) (rules : GoalRules α) (goal : Pose α) (road : Segment α)
    (preceding : List Int) (footprint : Ring α) : Verdict α :=
  match net.hasRoom rules goal road preceding footprint with
  | .error fault => .broken (some footprint) fault
  | .ok false => .refused .footprintExceedsLane (some footprint) .footprintExceedsLane
  | .ok true =>
    match net.isPlaced rules goal road with
    | .error fault => .broken (some footprint) fault
    | .ok true => .accepted (some footprint)
    | .ok false => .refused .invalidAngleOrPosition (some footprint) (.goalRejected goal)

def checkGoal (net : RoadNetwork α) (rules : GoalRules α) (goal : Pose α)
    (preceding : List Int) : Verdict α :=
  match net.isOnAlignedShoulder rules goal with
  | .error fault => .broken none fault
  | .ok true => .accepted none
  | .ok false =>
    match net.goalRoad? goal with
    | none => .refused .noRoadSegment none .noSegmentAroundGoal
    | some road =>
      match goal.placeRing (rules.vehicle.footprint 0 0) with
      | .error fault => .broken none fault
      | .ok footprint => net.checkAtRoad rules goal road preceding footprint

end RoadNetwork

end LaneRoute
