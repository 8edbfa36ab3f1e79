import LaneRoute.Network.Basic
import LaneRoute.Geometry.Angle
import LaneRoute.Pose

/-!
# Nearest segments

Which segments lie at a point, which lie nearest to it, and the visit of all segments in the
order of the distances to the rectangles around them.
-/

set_option autoImplicit false

namespace LaneRoute.RoadNetwork

open Scalar

variable {α : Type} [Sided α]

/-! ## At a point -/

def segmentsAt (net : RoadNetwork α) (p : Point α) : List (Segment α) :=
  net.segments.filter fun s => s.outline.contains p

def roadsAt (net : RoadNetwork α) (p : Point α) : List (Segment α) :=
  (net.segmentsAt p).filter (·.isRoad)

def shouldersAt (net : RoadNetwork α) (p : Point α) : List (Segment α) :=
  (net.segmentsAt p).filter (·.isShoulder)

/-! ## Visits by distance -/

def boxDistance (p : Point α) (s : Segment α) : α := s.outline.box.ring.distance p

def byBoxDistance (net : RoadNetwork α) (p : Point α) : List (α × Segment α) :=
  (net.segments.map fun s => (boxDistance p s, s)).mergeSort fun a b =>
    precedes a.1 b.1 (decide (a.2.id ≤ b.2.id))

/-- Visit in order until the visitor, which may keep a state, wants to stop. -/
def visitUntil {σ : Type} (visit : σ → α → Segment α → σ × Bool) (state : σ) :
    List (α × Segment α) → σ × Option (Segment α)
  | [] => (state, none)
  | (d, s) :: rest =>
    let (state, stop) := visit state d s
    if stop then (state, some s) else visitUntil visit state rest

def nearestUntil {σ : Type} (net : RoadNetwork α) (p : Point α)
    (visit : σ → α → Segment α → σ × Bool) (state : σ) : σ × Option (Segment α) :=
  visitUntil visit state (net.byBoxDistance p)

abbrev Nearest (α : Type) := Option (Segment α × α)

/-- Rectangles come by distance, so once one is farther than the nearest road nothing nearer
can follow. -/
def nearestRoadVisit (p : Point α) (best : Nearest α) (boxDistance : α) (s : Segment α) :
    Nearest α × Bool :=
  if best.any fun b => b.2 < boxDistance then (best, true)
  else
    let d := s.outline.distance p
    let nearer := match best with
      | none => isBounded d
      | some b => d < b.2
    (if s.isRoad && nearer then some (s, d) else best, false)

def nearestRoad? (net : RoadNetwork α) (p : Point α) : Option (Segment α) :=
  (net.nearestUntil p (nearestRoadVisit p) none).1.map (·.1)

/-! ## Nearest by distance and heading -/

structure Candidate (α : Type) where
  segment : Segment α
  distance : α
  angle : α

def candidate (p : Pose α) (s : Segment α) : Candidate α where
  segment := s
  distance := s.outline.distance p.point
  angle := Angle.between (s.headingAt p.point) p.yaw

/-- A nearer segment replaces the best one, and so does an equally near one that is better
aligned. -/
def closer (best : Option (Candidate α)) (c : Candidate α) : Option (Candidate α) :=
  match best with
  | none => if isBounded c.distance || isBounded c.angle then some c else none
  | some b =>
    if b.distance < c.distance then some b
    else if c.distance < b.distance || c.angle < b.angle then some c else some b

/-- The closest of some segments; of equally close ones the best aligned, and of these the
first. -/
def closest? (segments : List (Segment α)) (p : Pose α) : Option (Segment α) :=
  (segments.foldl (fun best s => closer best (candidate p s)) none).map (·.segment)

def Candidate.before (c d : Candidate α) : Bool :=
  precedes c.distance d.distance (precedes c.angle d.angle (decide (c.segment.id < d.segment.id)))

/-- Whether a candidate keeps to the limits; one that is not given does not bind. -/
def Candidate.admits (c : Candidate α) (maxDistance maxAngle : Option α) : Bool :=
  !maxDistance.any (fun m => m < c.distance) && !maxAngle.any (fun m => magnitude m < c.angle)

def firstLeast (best : Option (Candidate α)) (c : Candidate α) : Option (Candidate α) :=
  match best with
  | none => some c
  | some b => if c.before b then some c else some b

/-- The least by distance, angle and id of the segments that keep to the limits. -/
def closestWithin? (segments : List (Segment α)) (p : Pose α)
    (maxDistance maxAngle : Option α) : Option (Segment α) :=
  let admitted := (segments.map (candidate p)).filter (·.admits maxDistance maxAngle)
  (admitted.foldl firstLeast none).map (·.segment)

end LaneRoute.RoadNetwork
