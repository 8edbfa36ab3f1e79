import LaneRoute.Network.Basic
import LaneRoute.Route.Basic

/-!
# Drawings

What a picture of a route on its map is made of, in the order in which it is painted.
-/

set_option autoImplicit false

namespace LaneRoute

inductive Color where
  | green
  | cyan
  | yellow
  | grey
  | blue
  | red
deriving DecidableEq

def Color.name : Color → String
  | green => "g"
  | cyan => "c"
  | yellow => "y"
  | grey => "grey"
  | blue => "b"
  | red => "r"

structure Patch where
  color : Color
  opacity : Float
  label : String
  outlines : List (Ring Float)

/-- The box around a patch; around nothing it is inside out. -/
def Patch.box (p : Patch) : Ring.Box Float :=
  let inf : Float := 1 / 0
  (Ring.box? (p.outlines.flatMap (·.vertices))).getD ⟨inf, inf, -inf, -inf⟩

structure Marker where
  label : String
  color : Color
  symbol : String
  place : Point Float

structure Drawing where
  title : String
  patches : List Patch
  markers : List Marker

namespace Drawing

/-- Preferred segments stand out from other segments of the route, these from shoulders, and
these from the rest. -/
def style (route : Route Float) (s : Segment Float) : Color × Float :=
  if s.id ∈ route.preferredIds then (.green, 0.5)
  else if s.id ∈ route.sections.flatMap (·.primitives) then (.cyan, 0.3)
  else if s.isShoulder then (.yellow, 0.15)
  else (.grey, 0.15)

def segmentPatch (route : Route Float) (s : Segment Float) : Patch :=
  let (color, opacity) := style route s
  ⟨color, opacity, "", [s.outline]⟩

def lotPatch (l : ParkingLot Float) : Patch := ⟨.blue, 0.15, "", [l.outline]⟩

def spacePatches : List (ParkingSpace Float) → Except Fault (List Patch)
  | [] => .ok []
  | s :: rest => do
    match ← s.area with
    | some outlines => return ⟨.blue, 0.3, "", outlines⟩ :: (← spacePatches rest)
    | none => spacePatches rest

def footprintPatch (footprint : Ring Float) : Patch := ⟨.red, 1, "goal_footprint", [footprint]⟩

def startMarker (p : Pose Float) : Marker := ⟨"start", .blue, "o", p.point⟩

def goalMarker (p : Pose Float) : Marker := ⟨"goal", .red, "*", p.point⟩

def ofRoute (net : RoadNetwork Float) (route : Route Float) (footprint : Option (Ring Float)) :
    Except Fault Drawing := do
  let spaces ← spacePatches net.parkingSpaces
  return {
    title := "route through " ++ Decimal.digits route.sections.length ++ " sections"
    patches := net.segments.map (segmentPatch route) ++ net.parkingLots.map lotPatch ++ spaces
      ++ footprint.toList.map footprintPatch
    markers := route.start.toList.map startMarker ++ route.goal.toList.map goalMarker }

def legend (d : Drawing) : List String :=
  (d.patches.map (·.label) ++ d.markers.map (·.label)).filter (· ≠ "")

end Drawing

end LaneRoute
