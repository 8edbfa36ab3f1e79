import LaneRoute.Geometry.Cover
import LaneRoute.Map.Table
import LaneRoute.Network.Basic

/-!
# Map entries

The segments, parking spaces and parking lots of a map, one by one. References are kept as
they were written: which of them name a segment is known only when all ids are.
-/

set_option autoImplicit false

namespace LaneRoute

structure SegmentEntry where
  id : Int
  kind : SegmentKind
  leftBound : Polyline Float
  rightBound : Polyline Float
  center : Polyline Float
  successors : List Document
  predecessors : List Document
  left : Document
  right : Document
  leftSameDirection : Flag
  rightSameDirection : Flag
  leftLaneChange : Flag
  rightLaneChange : Flag
  drivable : Flag

namespace SegmentEntry

def kindNames : List (String × SegmentKind) :=
  [("road", .road), ("shoulder", .shoulder), ("road_shoulder", .shoulder), ("parking", .parking)]

def lowered (s : String) : String :=
  (s.map fun c => if c = '\u212a' then 'k' else c).toLower

/-- Names are compared without regard to case. -/
def kindOf (d : Document) : SegmentKind := (kindNames.lookup (lowered d.bare)).getD .other

/-- The centerline of an entry; without one it runs halfway between the bounds, for which
their points need two values. -/
def centerline (written : Document) (left right : Table.Points) : Except Fault Table.Points :=
  match written with
  | .null =>
    if left.width < 2 || right.width < 2 then .error .outOfRange
    else .ok ⟨3, Segment.middle left.line right.line⟩
  | d => Table.readBound d

/-- The items of a list of references. A text stands for its characters and a mapping for its
keys; what is not set stands for nothing. -/
def references (d : Document) : Except Fault (List Document) :=
  match d with
  | .list items => .ok items
  | .text s => .ok (s.toList.map fun c => .text c.toString)
  | .mapping entries => .ok (entries.map Prod.fst)
  | d => if d.isSet then .error .wrongKind else .ok []

def required (params : Document) (field : String) : Except Fault Document :=
  match params.get? field with
  | some d => .ok d
  | none => .error (.map (.missingField ((params.get? "id").getD .null) field))

/-- Faults in the values of an entry are reported with its id. -/
def blame {β : Type} (params : Document) (result : Except Fault β) : Except Fault β :=
  let id := (params.get? "id").getD .null
  match result with
  | .error .badValue => .error (.map (.malformed id none))
  | .error (.shortBound shape) => .error (.map (.malformed id (some shape)))
  | result => result

def ofFields (params id left right : Document) : Except Fault SegmentEntry := do
  let field (key : String) := (params.get? key).getD .null
  let flag (key : String) (usual : Bool) : Flag :=
    ((params.get? key).map Flag.mk).getD (.ofBool usual)
  let id ← id.toInt
  let left ← Table.readBound left
  let right ← Table.readBound right
  let center ← centerline (field "centerline") left right
  if left.width < 2 || right.width < 2 then .error .badValue
  let _ ← Ring.ofPoints (Segment.outlinePoints left.line right.line)
  let successors ← references (field "successors")
  let predecessors ← references (field "predecessors")
  if center.width < 2 then .error .outOfRange
  return {
    id := id
    kind := kindOf ((params.get? "type").getD (.text "road"))
    leftBound := left.line
    rightBound := right.line
    center := center.line
    successors := successors
    predecessors := predecessors
    left := field "adj_left"
    right := field "adj_right"
    leftSameDirection := flag "adj_left_same_direction" true
    rightSameDirection := flag "adj_right_same_direction" true
    leftLaneChange := flag "lane_change_left" false
    rightLaneChange := flag "lane_change_right" false
    drivable := flag "drivable" true }

def ofDocument (params : Document) : Except Fault SegmentEntry :=
  match params with
  | .mapping _ => do
    let id ← required params "id"
    let left ← required params "left_bound"
    let right ← required params "right_bound"
    blame params (ofFields params id left right)
  | _ => .error .noSuchPart

/-! ## References -/

/-- The id that a written reference stands for; only numbers without a fraction do. -/
def idOf? : Document → Option Int
  | .bool b => some (if b then 1 else 0)
  | .int i => some i
  | .real x =>
    (Binary.rational? x).bind fun q => if q.den = 1 then some q.num else none
  | _ => none

def written (e : SegmentEntry) : List Document :=
  (e.successors ++ e.predecessors ++ [e.left, e.right]).filter fun d => !(d matches .null)

/-- The id of a reference, with one in place of all references that stand for none. -/
def idOr (stranger : Int) (d : Document) : Int := (idOf? d).getD stranger

def writtenFor? (e : SegmentEntry) (stranger id : Int) : Option Document :=
  e.written.find? fun d => idOr stranger d = id

def hasGap (e : SegmentEntry) : Bool :=
  (e.successors ++ e.predecessors).any fun d => d matches .null

def toSegment (stranger : Int) (e : SegmentEntry) : Segment Float :=
  let present (ds : List Document) := ds.filter fun d => !(d matches .null)
  let ids (ds : List Document) := (present ds).map (idOr stranger)
  let spelling : Spelling := {
    successors := present e.successors
    predecessors := present e.predecessors
    left := (present [e.left]).head?
    right := (present [e.right]).head? }
  { id := e.id
    kind := e.kind
    leftBound := e.leftBound
    rightBound := e.rightBound
    center := e.center
    successors := ids e.successors
    predecessors := ids e.predecessors
    left := ⟨(ids [e.left]).head?, e.leftSameDirection, e.leftLaneChange⟩
    right := ⟨(ids [e.right]).head?, e.rightSameDirection, e.rightLaneChange⟩
    drivable := e.drivable
    spelling := spelling }

end SegmentEntry

/-! ## Parking areas -/

def parkingFields (d : Document) (fields : List String) : Except Fault (List Document) :=
  match d with
  | .mapping entries => fields.mapM fun f =>
      match Document.lookup? f entries with
      | some value => .ok value
      | none => .error .unknown
  | _ => .error .wrongKind

namespace ParkingSpace

/-- The area along a line of points. Lists of points that are no line are faults only where
an area could be asked for. -/
def areaOf (line : Table) (width : Float) : Except Fault (Option (List (Ring Float))) :=
  match line.shape with
  | [] => .error .wrongKind
  | count :: _ =>
    if count < 2 || width ≤ 0 then .ok none
    else do Strip.parts (← line.linePoints) width

def ofFields (id line width : Document) : Except Fault (ParkingSpace Float) := do
  let id ← id.toInt
  let line ← Table.read line
  let width ← width.toReal
  return ⟨id, areaOf line width⟩

def ofDocument (d : Document) : Except Fault (ParkingSpace Float) := do
  match ← parkingFields d ["id", "linestring", "width"] with
  | [id, line, width] => ofFields id line width
  | _ => .error .unknown

end ParkingSpace

namespace ParkingLot

def ofDocument (d : Document) : Except Fault (ParkingLot Float) := do
  match ← parkingFields d ["id", "polygon"] with
  | [id, polygon] => do
    let id ← id.toInt
    let points ← (← Table.read polygon).points
    return ⟨id, ← points.boundary⟩
  | _ => .error .unknown

end ParkingLot

end LaneRoute
