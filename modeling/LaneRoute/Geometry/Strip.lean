import LaneRoute.Geometry.Bend
import LaneRoute.Geometry.Concave
import LaneRoute.Geometry.Region

/-!
# Strips

The area within half a width of a polyline, with flat ends. It is what an outline along both
sides of the line has on its right; a closed line has one outline on each side.
-/

set_option autoImplicit false

namespace LaneRoute.Strip

open Scalar

variable {α : Type}

section Scalars

variable [Scalar α]

def spacedFrom (least : α) (last : Point α) : List (Point α) → List (Point α)
  | [] => []
  | p :: rest =>
    if Point.distance p last < least then spacedFrom least last rest
    else p :: spacedFrom least p rest

def closed (half : α) (points : List (Point α)) : Ring α :=
  match points with
  | [] => ⟨[]⟩
  | p :: rest =>
    let kept := p :: spacedFrom (half * (1 / ofCount 1000000)) p rest
    ⟨if (kept.getLast?.map (Point.agrees p)).getD false then kept else kept ++ [p]⟩

def distinctFrom (last : Point α) : List (Point α) → List (Point α)
  | [] => []
  | p :: rest => if p.agrees last then distinctFrom last rest else p :: distinctFrom p rest

def places (points : List (Point α)) : List (Point α) :=
  match points.filter (·.isFinite) with
  | [] => []
  | p :: rest => p :: distinctFrom p rest

def length (points : List (Point α)) : α :=
  match points with
  | [] => 0
  | p :: rest => (Ring.pairsFrom p rest).foldl (fun sum e => sum + Point.distance e.1 e.2) 0

def isClosed (points : List (Point α)) : Bool :=
  match points with
  | p :: _ :: _ :: rest => (rest.getLast?.map (Point.agrees p)).getD false
  | _ => false

/-- Whether an outline around a small ring has turned over, so that no part of it is as far
from the ring as it should be. -/
def isTurnedOver (half : α) (points : List (Point α)) (outline : Ring α) : Bool :=
  let tolerance := half * (ofCount 99 / ofCount 100)
  let isFar p := tolerance < Ring.boundaryDistance ⟨points⟩ p
  let corners := outline.vertices
  points.length < 9 && corners.length ≤ 4 * points.length
    && !corners.any isFar && !outline.edges.any fun e => isFar (Bend.midpoint e.1 e.2)

end Scalars

section Sides

variable [Sided α]

def alongside (half : α) : List (Point α) → List (Point α)
  | a :: b :: c :: rest => Bend.outline half false a b c ++ alongside half (b :: c :: rest)
  | [a, b] => [(Bend.beside half a b).2, (Bend.beside (-half) a b).2]
  | _ => []

def lineOutline (half : α) (points : List (Point α)) : Ring α :=
  closed half (alongside half (Concave.filled half false points)
    ++ alongside half (Concave.filled (-half) false points).reverse)

def bends (shift : α) : List (Point α) → List (Point α)
  | a :: b :: c :: rest => Bend.outline shift false a b c ++ bends shift (b :: c :: rest)
  | _ => []

def ringOutline (shift : α) (points : List (Point α)) : Ring α :=
  let kept := Concave.filled shift true points
  closed (magnitude shift) (match kept.dropLast.getLast?, kept with
    | some last, p :: q :: rest => Bend.outline shift true last p q ++ bends shift (p :: q :: rest)
    | _, _ => [])

def outlines (half : α) (points : List (Point α)) : List (Ring α) :=
  if points.length < 2 then []
  else if isClosed points then
    let left := ringOutline half points
    let right := ringOutline (-half) points
    let proper (r : Ring α) := if isTurnedOver half points r then [] else [r]
    proper left ++ (proper right).map fun r => ⟨r.vertices.reverse⟩
  else [lineOutline half points]

end Sides

/-- The parts of the strip along a line. A line of no length or a width that is not positive
makes none. -/
def parts [Planar α] (points : List (Point α)) (width : α) :
    Except Fault (Option (List (Ring α))) :=
  let half := width / two
  if points.length < 2 || width ≤ 0 || agrees (length points) 0 then .ok none
  else if !isFinite half then .error .badValue
  else .ok (some (Planar.enclosed (outlines half (places points))))

def area [Scalar α] (parts : List (Ring α)) : α := parts.foldl (fun sum r => sum + r.area) 0

end LaneRoute.Strip
