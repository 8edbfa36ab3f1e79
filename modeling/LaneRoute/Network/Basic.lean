import LaneRoute.Network.Parking
import LaneRoute.Network.Segment

/-!
# Road networks

A network owns its segments in ascending order of their ids. It accepts only segments with
distinct ids, positive lengths and references to segments of its own, and it completes the
longitudinal references so that every successor knows its predecessor and conversely.
-/

set_option autoImplicit false

namespace LaneRoute

structure RoadNetwork (α : Type) where
  segments : List (Segment α)
  parkingSpaces : List (ParkingSpace α)
  parkingLots : List (ParkingLot α)
  laneChangeCost : α

inductive NetworkFault (α : Type) where
  | duplicateId (id : Int)
  | badLength (id : Int) (length : α)
  | unknownReference (id reference : Int)

namespace RoadNetwork

variable {α : Type}

/-! ## Lookup -/

def find? (id : Int) (segments : List (Segment α)) : Option (Segment α) :=
  segments.find? fun s => s.id = id

def segment? (net : RoadNetwork α) (id : Int) : Option (Segment α) := find? id net.segments

def segment (net : RoadNetwork α) (id : Int) : Except Fault (Segment α) :=
  match net.segment? id with
  | some s => .ok s
  | none => .error .unknown

def ids (net : RoadNetwork α) : List Int := net.segments.map (·.id)

def roads (net : RoadNetwork α) : List (Segment α) := net.segments.filter (·.isRoad)

def shoulders (net : RoadNetwork α) : List (Segment α) := net.segments.filter (·.isShoulder)

/-- Unknown ids are no roads. -/
def isRoad (net : RoadNetwork α) (id : Int) : Bool := (net.segment? id).any (·.isRoad)

def isShoulder (net : RoadNetwork α) (id : Int) : Bool := (net.segment? id).any (·.isShoulder)

def roadsAmong (net : RoadNetwork α) (ids : List Int) : List (Segment α) :=
  (ids.filterMap net.segment?).filter (·.isRoad)

def successorRoads (net : RoadNetwork α) (id : Int) : Except Fault (List (Segment α)) :=
  (net.segment id).map fun s => net.roadsAmong s.successors

def predecessorRoads (net : RoadNetwork α) (id : Int) : Except Fault (List (Segment α)) :=
  (net.segment id).map fun s => net.roadsAmong s.predecessors

/-! ## Longitudinal links -/

def appendNew (id : Int) (ids : List Int) : List Int := if id ∈ ids then ids else ids ++ [id]

def update (id : Int) (f : Segment α → Segment α) (segments : List (Segment α)) :
    List (Segment α) :=
  segments.map fun s => if s.id = id then f s else s

def addPredecessor (pred id : Int) : List (Segment α) → List (Segment α) :=
  update id fun s => { s with predecessors := appendNew pred s.predecessors }

def addSuccessor (succ id : Int) : List (Segment α) → List (Segment α) :=
  update id fun s => { s with successors := appendNew succ s.successors }

/-- Make a segment known to its successors, then to its predecessors, including those that
became known meanwhile. -/
def linkOne (segments : List (Segment α)) (id : Int) : List (Segment α) :=
  let successors := ((find? id segments).map (·.successors)).getD []
  let segments := successors.foldl (fun segs succ => addPredecessor id succ segs) segments
  let predecessors := ((find? id segments).map (·.predecessors)).getD []
  predecessors.foldl (fun segs pred => addSuccessor id pred segs) segments

/-- Close the longitudinal references, segment by segment in the given order. -/
def link (segments : List (Segment α)) : List (Segment α) :=
  (segments.map (·.id)).foldl linkOne segments

/-! ## Construction -/

def firstRepeated? (seen : List Int) : List Int → Option Int
  | [] => none
  | id :: rest => if id ∈ seen then some id else firstRepeated? (id :: seen) rest

variable [Scalar α]

def checkSegment (ids : List Int) (s : Segment α) : Except (NetworkFault α) Unit :=
  if !Scalar.isFinite s.length || s.length ≤ 0 then .error (.badLength s.id s.length)
  else match s.references.find? (· ∉ ids) with
    | some reference => .error (.unknownReference s.id reference)
    | none => .ok ()

def check (segments : List (Segment α)) : Except (NetworkFault α) Unit :=
  let ids := segments.map (·.id)
  match firstRepeated? [] ids with
  | some id => .error (.duplicateId id)
  | none => segments.forM (checkSegment ids)

def build (segments : List (Segment α)) (spaces : List (ParkingSpace α))
    (lots : List (ParkingLot α)) (laneChangeCost : α) :
    Except (NetworkFault α) (RoadNetwork α) := do
  check segments
  return {
    segments := (link segments).mergeSort fun s t => decide (s.id ≤ t.id)
    parkingSpaces := spaces
    parkingLots := lots
    laneChangeCost := laneChangeCost }

end RoadNetwork

end LaneRoute
