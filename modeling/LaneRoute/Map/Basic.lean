import LaneRoute.Document.Lookup
import LaneRoute.Map.Entry

/-!
# Maps

Building a road network from a map document: a mapping with a list of segments, and possibly
lists of parking spaces and parking lots.
-/

set_option autoImplicit false

namespace LaneRoute.Map

/-- The items of a section of a map. The characters of a text and the keys of a mapping are
items, too, though none that make an entry. -/
def items (d : Document) : Except Fault (List Document) :=
  match d with
  | .list items => .ok items
  | .text s => .ok (s.toList.map fun c => .text c.toString)
  | .mapping entries => .ok (entries.map Prod.fst)
  | _ => .error .wrongKind

def optionalItems (d : Option Document) : Except Fault (List Document) :=
  match d with
  | some d => if d.isSet then items d else .ok []
  | none => .ok []

/-- A whole number that is no id and no reference of the entries. -/
def strangerId (entries : List SegmentEntry) : Int :=
  let used := entries.flatMap fun e => e.id :: e.written.filterMap SegmentEntry.idOf?
  used.foldl (fun (n : Int) (i : Int) => max n i) 0 + 1

def fault (entries : List SegmentEntry) (stranger : Int) : NetworkFault Float → Fault
  | .duplicateId id => .map (.duplicateId id)
  | .badLength id length => .map (.badLength id length)
  | .unknownReference id reference =>
    match (entries.find? (·.id = id)).bind (·.writtenFor? stranger reference) with
    | some (.list _) => .wrongKind
    | some (.mapping _) => .wrongKind
    | some d => .map (.unknownReference id d)
    | none => .unknown

def build (entries : List SegmentEntry) (spaces : List (ParkingSpace Float))
    (lots : List (ParkingLot Float)) (laneChangeCost : Float) :
    Except Fault (RoadNetwork Float) :=
  let stranger := strangerId entries
  let segments := entries.map (·.toSegment stranger)
  match RoadNetwork.build segments spaces lots laneChangeCost with
  | .error f => .error (fault entries stranger f)
  | .ok net => if entries.any (·.hasGap) then .error .unknown else .ok net

def ofDocument (d : Document) (laneChangeCost : Float) : Except Fault (RoadNetwork Float) := do
  if !d.isSet then .error (.map .noSegments)
  if !(← d.mentions "segments") then .error (.map .noSegments)
  match d.get? "segments" with
  | none => .error .wrongKind
  | some segments =>
    let entries ← (← items segments).mapM SegmentEntry.ofDocument
    let spaces ← (← optionalItems (d.get? "parking_spaces")).mapM ParkingSpace.ofDocument
    let lots ← (← optionalItems (d.get? "parking_lots")).mapM ParkingLot.ofDocument
    build entries spaces lots laneChangeCost

end LaneRoute.Map
