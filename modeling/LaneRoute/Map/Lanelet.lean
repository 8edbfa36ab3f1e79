import LaneRoute.Network.Basic

/-!
# Lanelets

Lanelets with types and line markings, and the road network that they make: parking lanelets
become parking lots and all others segments. References to what is no segment are left out.
-/

set_option autoImplicit false

namespace LaneRoute

inductive LaneletType where
  | shoulder
  | sidewalk
  | crosswalk
  | bicycleLane
  | restricted
  | parking
  | other
deriving DecidableEq

def LaneletType.named : String → LaneletType
  | "shoulder" => shoulder
  | "sidewalk" => sidewalk
  | "crosswalk" => crosswalk
  | "bicycleLane" => bicycleLane
  | "restricted" => restricted
  | "parking" => parking
  | _ => other

/-- Not meant for cars. -/
def LaneletType.isNonRoad : LaneletType → Bool
  | sidewalk => true
  | crosswalk => true
  | bicycleLane => true
  | _ => false

inductive LineMarking where
  | solid
  | broadSolid
  | other
deriving DecidableEq

def LineMarking.named : String → LineMarking
  | "solid" => solid
  | "broad_solid" => broadSolid
  | _ => other

def LineMarking.isCrossable : LineMarking → Bool
  | other => true
  | _ => false

structure LaneletSide where
  neighbor : Option Int
  sameDirection : Bool
  marking : LineMarking

structure LaneletPoint (α : Type) where
  place : Point α
  elevation : Option α

structure Lanelet (α : Type) where
  id : Int
  leftBound : List (LaneletPoint α)
  rightBound : List (LaneletPoint α)
  center : List (LaneletPoint α)
  successors : List Int
  predecessors : List Int
  left : LaneletSide
  right : LaneletSide
  types : List LaneletType

namespace Lanelet

variable {α : Type}

def isParking (l : Lanelet α) : Bool := .parking ∈ l.types

/-- A shoulder stays one whatever other types it has. -/
def kind (l : Lanelet α) : SegmentKind :=
  if .shoulder ∈ l.types then .shoulder
  else if l.types.any (·.isNonRoad) then .other
  else .road

def raised (elevation : α) (points : List (LaneletPoint α)) : Polyline α :=
  points.map fun p => ⟨p.place.x, p.place.y, p.elevation.getD elevation⟩

def side (known : List Int) (s : LaneletSide) : Side where
  neighbor := s.neighbor.filter (· ∈ known)
  sameDirection := .ofBool s.sameDirection
  laneChange := .ofBool s.marking.isCrossable

/-- Unlike those of a map entry, the bounds of a lanelet always have two vertices or more, all of
them places in the plane, so nothing is left to check when they are kept. A lot keeps an outline
only, and making one can fail. -/
def toSegment (known : List Int) (elevation : α) (l : Lanelet α) : Segment α where
  id := l.id
  kind := l.kind
  leftBound := raised elevation l.leftBound
  rightBound := raised elevation l.rightBound
  center := raised elevation l.center
  successors := l.successors.filter (· ∈ known)
  predecessors := l.predecessors.filter (· ∈ known)
  left := side known l.left
  right := side known l.right
  drivable := .ofBool (.restricted ∉ l.types)

variable [Scalar α]

def toLot (l : Lanelet α) : Except Fault (ParkingLot α) :=
  (Ring.ofPoints ((l.leftBound ++ l.rightBound.reverse).map (·.place))).map fun outline =>
    ⟨l.id, outline⟩

def lots (lanelets : List (Lanelet α)) : Except Fault (List (ParkingLot α)) :=
  (lanelets.filter (·.isParking)).mapM toLot

def segments (lanelets : List (Lanelet α)) (elevation : α) : List (Segment α) :=
  let rest := lanelets.filter fun l => !l.isParking
  rest.map (toSegment (rest.map (·.id)) elevation)

/-- Of lanelets with one id the first. -/
def distinct : List (Lanelet α) → List (Lanelet α)
  | [] => []
  | l :: rest => l :: (distinct rest).filter fun m => m.id ≠ l.id

def network (lanelets : List (Lanelet α)) (elevation laneChangeCost : α) :
    Except Fault (Except (NetworkFault α) (RoadNetwork α)) :=
  (lots lanelets).map fun lots =>
    RoadNetwork.build (segments lanelets elevation) [] lots laneChangeCost

end Lanelet

end LaneRoute
