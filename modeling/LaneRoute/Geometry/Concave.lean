import LaneRoute.Geometry.Ring

/-!
# Shallow hollows

Points of a polyline that lie in shallow hollows of one of its sides do not show in an outline
far from that side, and are left out before it is drawn.
-/

set_option autoImplicit false

namespace LaneRoute.Concave

open Scalar Sided

variable {α : Type} [Sided α]

abbrev Numbered (α : Type) := Point α × Nat

def isClose (tolerance : α) (a b c : Point α) : Bool := Ring.edgeDistance b a c < tolerance

def samples (points : Array (Point α)) (first last : Nat) : List (Point α) :=
  let step := max ((last - first) / 10) 1
  (List.range ((last - first + step - 1) / step)).filterMap fun k => points[first + k * step]?

def isHollow (shift : α) (a b c : Point α) : Bool :=
  if 0 < shift then 0 < side a b c else side a b c < 0

def isDispensable (shift : α) (points : Array (Point α)) (a b c : Numbered α) : Bool :=
  let tolerance := magnitude shift * (1 / ofCount 100)
  isHollow shift a.1 b.1 c.1 && isClose tolerance a.1 b.1 c.1
    && (samples points a.2 c.2).all (isClose tolerance a.1 b.1)

def thinned (leaveOut : Numbered α → Numbered α → Numbered α → Bool) :
    List (Numbered α) → List (Numbered α)
  | a :: b :: c :: rest =>
    if leaveOut a b c then a :: thinned leaveOut (c :: rest)
    else a :: thinned leaveOut (b :: c :: rest)
  | points => points

def thinnedOut (leaveOut : Numbered α → Numbered α → Numbered α → Bool) :
    Nat → List (Numbered α) → List (Numbered α)
  | 0, points => points
  | n + 1, points =>
    let fewer := thinned leaveOut points
    if fewer.length = points.length then points else thinnedOut leaveOut n fewer

/-- A polyline without the points in shallow hollows on the side of a shift. The first and the
last piece of an open one are kept. -/
def filled (shift : α) (isClosed : Bool) (points : List (Point α)) : List (Point α) :=
  let thin (ps : List (Numbered α)) :=
    thinnedOut (isDispensable shift points.toArray) ps.length ps
  let kept := match points.zipIdx with
    | p :: rest => if isClosed then thin (p :: rest) else p :: thin rest
    | [] => []
  kept.map (·.1)

end LaneRoute.Concave
