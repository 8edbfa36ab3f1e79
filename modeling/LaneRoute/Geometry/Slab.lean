import LaneRoute.Geometry.Region
import LaneRoute.Number.Double

/-!
# Slabs

Exact comparison of planar areas. Vertical lines through all ends and crossings of edges cut
the plane into slabs. No two edges cross inside a slab, so the areas lie on a line through its
middle as they lie in all of it.
-/

set_option autoImplicit false

namespace LaneRoute.Slab

/-! ## Edges -/

/-- An edge that is not vertical, from left to right, with the change of the winding number
where it is crossed upward. -/
structure Edge where
  left : Point Rat
  right : Point Rat
  turn : Int

def Edge.height (e : Edge) (x : Rat) : Rat :=
  e.left.y + (x - e.left.x) * (e.right.y - e.left.y) / (e.right.x - e.left.x)

def Edge.slope (e : Edge) : Rat := (e.right.y - e.left.y) / (e.right.x - e.left.x)

def Edge.spans (e : Edge) (x : Rat) : Bool := e.left.x < x && x < e.right.x

def lesser (x y : Rat) : Rat := if x ≤ y then x else y

def greater (x y : Rat) : Rat := if x ≤ y then y else x

def Edge.lowest (e : Edge) : Rat := lesser e.left.y e.right.y

def Edge.highest (e : Edge) : Rat := greater e.left.y e.right.y

def Edge.mayMeet (e f : Edge) : Bool :=
  e.left.x < f.right.x && f.left.x < e.right.x && e.lowest ≤ f.highest && f.lowest ≤ e.highest

def Edge.crossing? (e f : Edge) : Option Rat :=
  if !e.mayMeet f then none
  else if e.slope = f.slope then none
  else
    let x := e.left.x + (f.height e.left.x - e.left.y) / (e.slope - f.slope)
    if e.spans x && f.spans x then some x else none

def exactPoint (p : Point Float) : Point Rat := ⟨Binary.rational p.x, Binary.rational p.y⟩

def nearestPoint (x y : Rat) : Point Float := ⟨Binary.nearest x, Binary.nearest y⟩

def edge? (p q : Point Rat) : Option Edge :=
  if p.x < q.x then some ⟨p, q, 1⟩ else if q.x < p.x then some ⟨q, p, -1⟩ else none

def edgesOf (ring : Ring Float) : List Edge :=
  ring.edges.filterMap fun e => edge? (exactPoint e.1) (exactPoint e.2)

structure Shape where
  edges : List Edge
  left : Rat
  right : Rat

def extreme (choose : Rat → Rat → Rat) : List Rat → Rat
  | [] => 0
  | x :: rest => rest.foldl choose x

def shape (ring : Ring Float) : Shape :=
  let edges := edgesOf ring
  ⟨edges, extreme lesser (edges.map (·.left.x)), extreme greater (edges.map (·.right.x))⟩

def isFinite (ring : Ring Float) : Bool := ring.vertices.all (·.isFinite)

/-! ## Borders of slabs -/

def crossingsFrom : List Edge → List Rat
  | [] => []
  | e :: rest =>
    (rest.takeWhile fun f => f.left.x < e.right.x).filterMap e.crossing? ++ crossingsFrom rest

def crossings (edges : List Edge) : List Rat :=
  crossingsFrom (edges.mergeSort fun e f => decide (e.left.x ≤ f.left.x))

def distinct : List Rat → List Rat
  | x :: y :: rest => if x = y then distinct (y :: rest) else x :: distinct (y :: rest)
  | xs => xs

def borders (edges crossing : List Edge) : List Rat :=
  let xs := edges.flatMap (fun e => [e.left.x, e.right.x]) ++ crossings crossing
  distinct (xs.mergeSort fun a b => decide (a ≤ b))

def between : List Rat → List (Rat × Rat)
  | a :: b :: rest => (a, b) :: between (b :: rest)
  | _ => []

def middle (slab : Rat × Rat) : Rat := (slab.1 + slab.2) / 2

/-! ## Vertical lines -/

structure Mark where
  height : Rat
  edge : Edge

/-- Whether an edge reaches a vertical line from one of its sides: the right one, when looking
ahead. -/
def Edge.reaches (ahead : Bool) (x : Rat) (e : Edge) : Bool :=
  if ahead then e.left.x ≤ x && x < e.right.x else e.left.x < x && x ≤ e.right.x

def Mark.below (ahead : Bool) (a b : Mark) : Bool :=
  a.height < b.height || (a.height = b.height
    && if ahead then a.edge.slope ≤ b.edge.slope else b.edge.slope ≤ a.edge.slope)

def marks (ahead : Bool) (x : Rat) (edges : List Edge) : List Mark :=
  ((edges.filter (Edge.reaches ahead x)).map fun e => ⟨e.height x, e⟩).mergeSort
    (Mark.below ahead)

abbrev Stretch := Mark × Mark

def stretches (inside : Int → Bool) (winding : Int) (floor : Option Mark) :
    List Mark → List Stretch
  | [] => []
  | m :: rest =>
    let next := winding + m.edge.turn
    match floor, inside next with
    | none, true => stretches inside next (some m) rest
    | some f, false => (f, m) :: stretches inside next none rest
    | floor, _ => stretches inside next floor rest

/-- The winding numbers that a ray to a place tells to be inside: the odd ones. -/
def isOdd (n : Int) : Bool := n % 2 ≠ 0

def isNonzero (n : Int) : Bool := n ≠ 0

def hasLength (s : Stretch) : Bool := s.1.height < s.2.height

def joinedFrom (s : Stretch) : List Stretch → List Stretch
  | [] => [s]
  | t :: rest =>
    if t.1.height ≤ s.2.height then
      joinedFrom (s.1, if s.2.height < t.2.height then t.2 else s.2) rest
    else s :: joinedFrom t rest

def joined (ss : List Stretch) : List Stretch :=
  match ss.mergeSort fun s t => decide (s.1.height ≤ t.1.height) with
  | [] => []
  | s :: rest => joinedFrom s rest

def unionStretches (ahead : Bool) (shapes : List Shape) (x : Rat) : List Stretch :=
  joined ((shapes.filter fun s => s.left ≤ x && x ≤ s.right).flatMap fun s =>
    (stretches isNonzero 0 none (marks ahead x s.edges)).filter hasLength)

/-! ## Trapezoids -/

structure Trapezoid where
  left : Rat
  right : Rat
  floor : Edge
  ceiling : Edge

namespace Trapezoid

def area (t : Trapezoid) : Rat :=
  let m := (t.left + t.right) / 2
  (t.right - t.left) * (t.ceiling.height m - t.floor.height m)

def ring (t : Trapezoid) : Ring Float :=
  let corner := nearestPoint t.left (t.floor.height t.left)
  ⟨[corner, nearestPoint t.left (t.ceiling.height t.left),
    nearestPoint t.right (t.ceiling.height t.right),
    nearestPoint t.right (t.floor.height t.right), corner]⟩

end Trapezoid

def trapezoids (stretchesAt : Rat → List Stretch) (xs : List Rat) : List Trapezoid :=
  (between xs).flatMap fun slab =>
    (stretchesAt (middle slab)).map fun s => ⟨slab.1, slab.2, s.1.edge, s.2.edge⟩

def unionTrapezoids (rings : List (Ring Float)) : List Trapezoid :=
  let shapes := rings.map shape
  let edges := shapes.flatMap (·.edges)
  trapezoids (unionStretches true shapes) (borders edges edges)

/-- What curves have on their right, where the winding number is negative. -/
def enclosed (curves : List (Ring Float)) : List (Ring Float) :=
  let edges := (curves.filter isFinite).flatMap edgesOf
  let inside x := (stretches (· < 0) 0 none (marks true x edges)).filter hasLength
  (trapezoids inside (borders edges edges)).map (·.ring)

/-! ## Single boundaries -/

def windings (winding : Int) : List Mark → List Int
  | m :: n :: rest =>
    let next := winding + m.edge.turn
    let later := windings next (n :: rest)
    if m.height < n.height then next :: later else later
  | _ => []

/-- The winding numbers in all slabs, other than zero. -/
def windingsOf (ring : Ring Float) : List Int :=
  let edges := edgesOf ring
  (between (borders edges edges)).flatMap fun slab =>
    (windings 0 (marks true (middle slab) edges)).filter isNonzero

def isSound (ring : Ring Float) : Bool :=
  isFinite ring && match windingsOf ring with
    | [] => true
    | w :: rest => rest.all (· = w)

def hasExtent (ring : Ring Float) : Bool := !(windingsOf ring).isEmpty

/-! ## Sides -/

/-- The determinant of a point and a directed line is taken for exact when it is larger than
what rounding can have done to it. -/
def roundedSide? (a b p : Point Float) : Option Int :=
  let left := (a.x - p.x) * (b.y - p.y)
  let right := (a.y - p.y) * (b.x - p.x)
  let det := left - right
  if (left + right).abs * 3.3306690621773724e-16 ≤ det.abs then
    some (if 0 < det then 1 else if det < 0 then -1 else 0)
  else none

/-- The side of a directed line, from the sign of the determinant. Places that are not finite
lie on all lines unless it has a sign all the same. -/
def side (a b p : Point Float) : Int :=
  match roundedSide? a b p with
  | some s => s
  | none =>
    if a.isFinite && b.isFinite && p.isFinite then
      let a := exactPoint a
      let b := exactPoint b
      let p := exactPoint p
      let d := (b.x - a.x) * (p.y - a.y) - (b.y - a.y) * (p.x - a.x)
      if 0 < d then 1 else if d < 0 then -1 else 0
    else 0

def isTractable (a b c d : Point Float) : Bool :=
  let first := a.x * b.y - b.x * a.y
  let last := c.x * d.y - d.x * c.y
  let x := (b.x - a.x) * last - (d.x - c.x) * first
  let y := (c.y - d.y) * first - (a.y - b.y) * last
  Scalar.isFinite x && Scalar.isFinite y

def meet? (a b c d : Point Float) : Option (Point Float) :=
  if !isTractable a b c d then none
  else
    let a := exactPoint a
    let b := exactPoint b
    let c := exactPoint c
    let d := exactPoint d
    let det := (b.x - a.x) * (d.y - c.y) - (b.y - a.y) * (d.x - c.x)
    if det = 0 then none
    else
      let t := ((c.x - a.x) * (d.y - c.y) - (c.y - a.y) * (d.x - c.x)) / det
      some (nearestPoint (a.x + t * (b.x - a.x)) (a.y + t * (b.y - a.y)))

instance : Sided Float where
  side := side
  meet? := meet?

end LaneRoute.Slab
