import LaneRoute.Fault
import LaneRoute.Geometry.Point

/-!
# Rings

Closed boundaries of planar areas. A point belongs to the area when it lies on the boundary
or a ray from it crosses the boundary an odd number of times; this is decided exactly.
-/

set_option autoImplicit false

namespace LaneRoute

structure Ring (α : Type) where
  vertices : List (Point α)

/-- Scalars that tell sides without rounding. -/
class Sided (α : Type) extends Scalar α where
  /-- The side of the directed line through the first two points on which the third lies:
  positive on the left, negative on the right, zero on the line. -/
  side : Point α → Point α → Point α → Int
  /-- Where the line through the first two points meets the one through the last two, unless
  they are parallel or too far away to be told. -/
  meet? : Point α → Point α → Point α → Point α → Option (Point α)

namespace Ring

open Scalar

variable {α : Type}

def pairsFrom (p : Point α) : List (Point α) → List (Point α × Point α)
  | [] => []
  | q :: rest => (p, q) :: pairsFrom q rest

def edges (ring : Ring α) : List (Point α × Point α) :=
  match ring.vertices with
  | [] => []
  | p :: rest => pairsFrom p rest

section Scalars

variable [Scalar α]

/-- The boundary through points; the first is repeated at the end unless it stands there
already and four points or more are given. -/
def through (points : List (Point α)) : Ring α :=
  match points with
  | [] => ⟨[]⟩
  | p :: rest =>
    let closed := 4 ≤ points.length && (points.getLast?.map (Point.agrees p)).getD false
    if closed then ⟨points⟩ else ⟨p :: rest ++ [p]⟩

/-- Points that make a boundary: at least three, with a start that can be met again. -/
def ofPoints (points : List (Point α)) : Except Fault (Ring α) :=
  match points with
  | p :: _ :: _ :: _ => if Point.agrees p p then .ok (through points) else .error .badShape
  | _ => .error .badValue

structure Box (α : Type) where
  minX : α
  minY : α
  maxX : α
  maxY : α

def Box.ofPoint (p : Point α) : Box α := ⟨p.x, p.y, p.x, p.y⟩

def Box.extend (b : Box α) (p : Point α) : Box α where
  minX := if p.x < b.minX then p.x else b.minX
  minY := if p.y < b.minY then p.y else b.minY
  maxX := if b.maxX < p.x then p.x else b.maxX
  maxY := if b.maxY < p.y then p.y else b.maxY

def box? (points : List (Point α)) : Option (Box α) :=
  match points with
  | [] => none
  | p :: rest => some (rest.foldl Box.extend (Box.ofPoint p))

def box (ring : Ring α) : Box α := (box? ring.vertices).getD ⟨0, 0, 0, 0⟩

def Box.ring (b : Box α) : Ring α :=
  ⟨[⟨b.maxX, b.minY⟩, ⟨b.maxX, b.maxY⟩, ⟨b.minX, b.maxY⟩, ⟨b.minX, b.minY⟩, ⟨b.maxX, b.minY⟩]⟩

def Box.holds (b : Box α) (p : Point α) : Bool :=
  b.minX ≤ p.x && p.x ≤ b.maxX && b.minY ≤ p.y && p.y ≤ b.maxY

def Box.holdsBox (b c : Box α) : Bool :=
  b.minX ≤ c.minX && c.maxX ≤ b.maxX && b.minY ≤ c.minY && c.maxY ≤ b.maxY

def Box.meets (b c : Box α) : Bool :=
  b.minX ≤ c.maxX && c.minX ≤ b.maxX && b.minY ≤ c.maxY && c.minY ≤ b.maxY

def edgeDistance (p a b : Point α) : α :=
  let dx := b.x - a.x
  let dy := b.y - a.y
  if Point.agrees a b then Point.distance p a
  else
    let squared := dx * dx + dy * dy
    let along := ((p.x - a.x) * dx + (p.y - a.y) * dy) / squared
    if along ≤ 0 then Point.distance p a
    else if 1 ≤ along then Point.distance p b
    else magnitude (((a.y - p.y) * dx - (a.x - p.x) * dy) / squared) * sqrt squared

def lesser (best : Option α) (d : α) : Option α :=
  match best with
  | none => if isBounded d then some d else none
  | some least => some (if d < least then d else least)

def boundaryDistance (ring : Ring α) (p : Point α) : α :=
  (ring.edges.foldl (fun best e => lesser best (edgeDistance p e.1 e.2)) none).getD unreachable

/-- Twice the area on one side, from the abscissas of the inner points of a list and the
ordinates of their neighbours. -/
def shoelace (x sum : α) : List (Point α) → α
  | p :: q :: r :: rest => shoelace x (sum + (q.x - x) * (p.y - r.y)) (q :: r :: rest)
  | _ => sum

def area (ring : Ring α) : α :=
  match ring.vertices with
  | [] => 0
  | p :: rest => magnitude (shoelace p.x 0 (p :: rest) / two)

end Scalars

section Planes

variable [Sided α]

open Sided

/-- How an edge meets the ray that leaves a point in the direction of growing `x`. -/
inductive Meeting where
  | touches
  | crosses
  | misses

def meeting (p a b : Point α) : Meeting :=
  if a.x < p.x && b.x < p.x then .misses
  else if Point.agrees p b then .touches
  else if agrees a.y p.y && agrees b.y p.y then
    if (a.x ≤ p.x && p.x ≤ b.x) || (b.x ≤ p.x && p.x ≤ a.x) then .touches else .misses
  else if (p.y < a.y && b.y ≤ p.y) || (p.y < b.y && a.y ≤ p.y) then
    let s := side a b p
    if s = 0 then .touches
    else if (0 < s) = (a.y < b.y) then .crosses else .misses
  else .misses

def parity (p : Point α) : Bool → List (Point α × Point α) → Bool
  | odd, [] => odd
  | odd, (a, b) :: rest =>
    match meeting p a b with
    | .touches => true
    | .crosses => parity p (!odd) rest
    | .misses => parity p odd rest

/-- Whether a point belongs to the area or its boundary. A place that is not finite belongs
to nothing, and so does one outside of the rectangle around the boundary. -/
def contains (ring : Ring α) (p : Point α) : Bool :=
  p.isFinite && ring.box.holds p && parity p false ring.edges

def distance (ring : Ring α) (p : Point α) : α :=
  if ring.contains p then 0 else boundaryDistance ring p

/-- Whether a point lies on an area, up to a tolerance that is not reached. -/
def isWithin (ring : Ring α) (p : Point α) (tolerance : α) : Bool := ring.distance p < tolerance

def isOn (ring : Ring α) (p : Point α) : Bool := ring.isWithin p epsilon

end Planes

end Ring

end LaneRoute
