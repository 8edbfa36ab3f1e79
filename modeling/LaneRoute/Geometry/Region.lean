import LaneRoute.Geometry.Ring

/-!
# Regions

Areas put together from others. One area alone stays as it was drawn. From two on, the areas
are dissolved into one another: what encloses nothing is left out, and a boundary that crosses
itself is a fault.
-/

set_option autoImplicit false

namespace LaneRoute

inductive Region (α : Type) where
  | empty
  | single (ring : Ring α)
  | union (rings : List (Ring α))

/-- Scalars that compare areas without rounding. -/
class Planar (α : Type) extends Sided α where
  /-- Whether an area can be united with others. -/
  isSound : Ring α → Bool
  /-- Whether a boundary encloses anything. -/
  hasExtent : Ring α → Bool
  /-- Whether an area lies inside a region. One without extent must not lie on the border of
  the region alone. -/
  covers : Region α → Ring α → Except Fault Bool
  /-- What closed curves have on their right once or more often than on their left, in parts
  without a common inner point. -/
  enclosed : List (Ring α) → List (Ring α)

namespace Region

variable {α : Type} [Planar α]

def isSound : Region α → Bool
  | single ring => Planar.isSound ring
  | _ => true

def substance : Region α → List (Ring α)
  | empty => []
  | single ring => [ring].filter Planar.hasExtent
  | union rings => rings

def dissolved (rings : List (Ring α)) : Region α := if rings.isEmpty then empty else union rings

def ofRings : List (Ring α) → Except Fault (Region α)
  | [] => .ok empty
  | [ring] => .ok (single ring)
  | rings =>
    if rings.all Planar.isSound then .ok (dissolved (rings.filter Planar.hasExtent))
    else .error .badShape

def unite (a b : Region α) : Except Fault (Region α) :=
  match a, b with
  | empty, b => .ok b
  | a, empty => .ok a
  | a, b =>
    if a.isSound && b.isSound then .ok (dissolved (a.substance ++ b.substance))
    else .error .badShape

end Region

end LaneRoute
