import LaneRoute.Network.Nearest
import LaneRoute.Network.ShortestPath
import LaneRoute.Notice

/-!
# Paths between checkpoints

Which segments a pose may start from or lead to, and the cheapest path over all such pairs.
-/

set_option autoImplicit false

namespace LaneRoute.RoadNetwork

open Scalar

variable {α : Type} [Sided α]

/-- How far the heading of a start may be from the lane. -/
def startAngle : α := pi / ofCount 4

def isAlignedWithin (limit : α) (p : Pose α) (s : Segment α) : Bool :=
  Angle.between (s.headingAt p.point) p.yaw < limit

/-- The aligned roads at a pose; without any, the closest road, aligned if possible. -/
def startCandidates (net : RoadNetwork α) (p : Pose α) : List Int :=
  let here := (net.roadsAt p.point).filter (isAlignedWithin startAngle p)
  if !here.isEmpty then here.map (·.id)
  else match closestWithin? net.roads p none (some startAngle) with
    | some s => [s.id]
    | none => ((closest? net.roads p).map (·.id)).toList

/-- The roads at a pose, whatever their heading; without any, the closest road. -/
def goalCandidates (net : RoadNetwork α) (p : Pose α) : List Int :=
  let here := net.roadsAt p.point
  if !here.isEmpty then here.map (·.id) else ((closest? net.roads p).map (·.id)).toList

/-- The cost of a path counts its first segment, too. -/
def pathBetween (net : RoadNetwork α) (g : RoutingGraph α) (start goal : Int) :
    Except Fault (Option (α × List Int)) := do
  match ← g.shortestPath start goal with
  | none => return none
  | some (cost, path) => return some (cost + (← net.segment start).length, path)

/-- A later path replaces the best one only if it is cheaper. -/
def cheaper (best new : Option (α × List Int)) : Option (α × List Int) :=
  match best, new with
  | some b, some n => if n.1 < b.1 then some n else some b
  | none, some n => if isBounded n.1 then some n else none
  | best, none => best

def bestPath (net : RoadNetwork α) (g : RoutingGraph α) (starts goals : List Int) :
    Except Fault (Option (List Int)) := do
  let pairs := starts.flatMap fun s => goals.map fun t => (s, t)
  let best ← pairs.foldlM (fun best pair => do
    return cheaper best (← net.pathBetween g pair.1 pair.2)) none
  return best.map Prod.snd

/-- The cheapest path from one pose to another. When lanes that are not to be driven on shall
be avoided and the path has one, a path without them is preferred whatever it costs. -/
def pathBetweenPoses (net : RoadNetwork α) (start goal : Pose α) (avoid : Bool) :
    Report (Notice α) (Option (List Int)) := do
  let starts := net.startCandidates start
  let goals := net.goalCandidates goal
  if starts.isEmpty || goals.isEmpty then
    Report.notice .noSegmentForPair
    return none
  match ← Report.ofExcept (net.bestPath net.graph starts goals) with
  | none => return none
  | some path =>
    let undrivable id := (net.segment? id).any fun s => !s.drivable.isSet
    if avoid && path.any undrivable then
      match ← Report.ofExcept (net.bestPath net.drivableGraph starts goals) with
      | some detour => return some detour
      | none =>
        Report.notice .noDrivableRoute
        return some path
    else return some path

end LaneRoute.RoadNetwork
