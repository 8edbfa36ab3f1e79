import LaneRoute.Network.Nearest
import LaneRoute.Vehicle

/-!
# Goal corrections

Moving a pose onto the lane that it lies on, and taking its elevation from the lane.
-/

set_option autoImplicit false

namespace LaneRoute.RoadNetwork

open Scalar

variable {α : Type} [Sided α]

def nearestVertex? (vertices : Polyline α) (p : Point α) : Option (Vertex α) := do
  let i ← Polyline.nearestIndex? p vertices
  vertices[i]?

def onLane (v : Vertex α) (heading shift : α) : Pose α where
  x := v.x + -shift * sin heading
  y := v.y + shift * cos heading
  z := v.z
  yaw := heading

def segmentUnder? (net : RoadNetwork α) (p : Pose α) : Option (Segment α) :=
  closestWithin? net.segments p (some 0) none

/-- Move a pose to the nearest sample of the centerline that it lies on, aside by what makes
the clearances on both sides equal, and into the direction of the lane. A pose that lies on
no segment stays as it is. -/
def refineLateral (net : RoadNetwork α) (vehicle : Vehicle α) (resolution : α) (p : Pose α) :
    Except Fault (Pose α) :=
  match net.segmentUnder? p with
  | none => .ok p
  | some s => (Polyline.resample s.center resolution).map fun line =>
      match nearestVertex? line p.point with
      | none => p
      | some v => onLane v (Polyline.headingAt line p.point) vehicle.lateralOffset

def refineElevation (net : RoadNetwork α) (resolution : α) (p : Pose α) (id : Int) :
    Except Fault (Pose α) := do
  let s ← net.segment id
  let line ← Polyline.resample s.center resolution
  return match Polyline.project? line p.point with
    | none => p
    | some v => { p with z := v.z }

end LaneRoute.RoadNetwork
