import LaneRoute.Fault
import LaneRoute.Geometry.Point

/-!
# Polylines

Bounds and centerlines: lists of vertices. Lengths, nearest points and headings are planar;
elevations follow along.
-/

set_option autoImplicit false

namespace LaneRoute

abbrev Polyline (α : Type) := List (Vertex α)

namespace Polyline

open Scalar

variable {α : Type} [Scalar α]

def step (v w : Vertex α) : α := hypot (w.x - v.x) (w.y - v.y)

def arcLengthsFrom (s : α) (v : Vertex α) : List (Vertex α) → List α
  | [] => [s]
  | w :: rest => s :: arcLengthsFrom (s + step v w) w rest

def arcLengths : Polyline α → List α
  | [] => [0]
  | v :: rest => arcLengthsFrom 0 v rest

def planarLengthFrom (s : α) (v : Vertex α) : List (Vertex α) → α
  | [] => s
  | w :: rest => planarLengthFrom (s + step v w) w rest

def planarLength : Polyline α → α
  | [] => 0
  | v :: rest => planarLengthFrom 0 v rest

/-! ## The nearest piece -/

/-- Where a polyline comes nearest to a point: the piece, the share of the piece before that
place, and how far away it is. -/
structure Foot (α : Type) where
  start : Vertex α
  stop : Vertex α
  share : α
  distance : α

def pieceFoot (p : Point α) (a b : Vertex α) : Foot α :=
  let dx := b.x - a.x
  let dy := b.y - a.y
  let squared := dx * dx + dy * dy
  let t := if agrees squared 0 then 0
    else toUnit (((p.x - a.x) * dx + (p.y - a.y) * dy) / squared)
  let ex := a.x + t * dx - p.x
  let ey := a.y + t * dy - p.y
  ⟨a, b, t, sqrt (ex * ex + ey * ey)⟩

/-- The earlier of two places stays unless the later one is strictly nearer. A place at no
bounded distance is never chosen. -/
def Foot.nearer (best : Option (Foot α)) (new : Foot α) : Option (Foot α) :=
  match best with
  | none => if isBounded new.distance then some new else none
  | some old => if new.distance < old.distance then some new else some old

def footFrom (p : Point α) (best : Option (Foot α)) (a : Vertex α) :
    List (Vertex α) → Option (Foot α)
  | [] => best
  | b :: rest => footFrom p (Foot.nearer best (pieceFoot p a b)) b rest

/-- The nearest place of a polyline that has a piece. When nothing can be measured it is the
start of the first piece. -/
def foot? (p : Point α) : Polyline α → Option (Foot α)
  | a :: b :: rest => some ((footFrom p none a (b :: rest)).getD ⟨a, b, 0, unreachable⟩)
  | _ => none

def headingAt (line : Polyline α) (p : Point α) : α :=
  match foot? p line with
  | some f => atan2 (f.stop.y - f.start.y) (f.stop.x - f.start.x)
  | none => 0

def Foot.place (f : Foot α) : Vertex α := f.start.add (Vertex.scale f.share (f.stop.sub f.start))

/-- The vertical projection of the nearest planar place onto the polyline. -/
def project? (line : Polyline α) (p : Point α) : Option (Vertex α) :=
  match foot? p line with
  | some f => some f.place
  | none => line.head?

/-! ## The nearest vertex -/

def nearestFrom (p : Point α) (i best : Nat) (least : α) : List (Vertex α) → Nat
  | [] => best
  | v :: rest =>
    let d := hypot (v.x - p.x) (v.y - p.y)
    if isNumber least && (d < least || !isNumber d) then nearestFrom p (i + 1) i d rest
    else nearestFrom p (i + 1) best least rest

/-- The first of the vertices nearest to a point; one that cannot be measured counts as
nearest. -/
def nearestIndex? (p : Point α) : Polyline α → Option Nat
  | [] => none
  | v :: rest => some (nearestFrom p 1 0 (hypot (v.x - p.x) (v.y - p.y)) rest)

/-! ## Interpolation along the arc length -/

/-- The value at `x` on the line through `(s, a)` and `(t, b)`. Where that is no number the
other end is tried, and equal ends need no line. -/
def blend (x s t a b : α) : α :=
  let slope := (b - a) / (t - s)
  let fromStart := slope * (x - s) + a
  let fromEnd := slope * (x - t) + b
  if isNumber fromStart then fromStart
  else if isNumber fromEnd || !agrees a b then fromEnd else a

/-- The place at distance `x` on a polyline given with its arc lengths, when the last knot
not beyond `x` is looked for from `(s, v)` on. -/
def placeFrom (x s : α) (v : Vertex α) : List (α × Vertex α) → Vertex α
  | [] => v
  | (t, w) :: rest =>
    if t ≤ x then placeFrom x t w rest
    else if x ≤ s then v
    else ⟨blend x s t v.x w.x, blend x s t v.y w.y, blend x s t v.z w.z⟩

/-- The place at distance `x` from the start; before the start it is the start and beyond
the end the end. -/
def placeAt (x : α) (knots : List (α × Vertex α)) : Vertex α :=
  match knots with
  | [] => ⟨x, x, x⟩
  | (s, v) :: rest => if isNumber x then placeFrom x s v rest else ⟨x, x, x⟩

def knots (line : Polyline α) : List (α × Vertex α) := (arcLengths line).zip line

def evenly (stop : α) (pieces : Nat) : List α :=
  ((List.range pieces).map fun i => ofCount i * (stop / ofCount pieces)) ++ [stop]

/-- The places at even shares of the length. A polyline of no length stays at its start. -/
def atEvenShares (line : Polyline α) (pieces : Nat) : List (Vertex α) :=
  let total := planarLength line
  let shares := evenly (1 : α) pieces
  if agrees total 0 then (line.take 1).flatMap (List.replicate shares.length)
  else shares.map fun r => placeAt (r * total) (knots line)

/-! ## Sampling at a resolution -/

def isRepeat (v w : Vertex α) : Bool := agrees (w.x - v.x) 0 && agrees (w.y - v.y) 0

def withoutRepeatsFrom (v : Vertex α) : List (Vertex α) → List (Vertex α)
  | [] => []
  | w :: rest =>
    if isRepeat v w then withoutRepeatsFrom w rest else w :: withoutRepeatsFrom w rest

/-- The polyline without vertices that lie in the plane where their predecessor lies. -/
def withoutRepeats : Polyline α → Polyline α
  | [] => []
  | v :: rest => v :: withoutRepeatsFrom v rest

def pieceCount (total resolution : α) : Except Fault Nat :=
  let ratio := total / resolution
  if !isNumber ratio then .error .badValue
  else if !isFinite ratio then .error .tooLarge
  else if !isCountable ratio then .error .badValue
  else .ok (max (ceiling ratio).toNat 1)

def distinctFrom (x : α) : List α → List α
  | [] => [x]
  | y :: rest => if agrees x y then distinctFrom x rest else x :: distinctFrom y rest

def afterLesser (x : α) (rest : List α → List α) : List α → List α
  | [] => x :: rest []
  | y :: ys => if x ≤ y then x :: rest (y :: ys) else y :: afterLesser x rest ys

/-- Two ascending lists as one; of equal values those of the first list come first. -/
def woven : List α → List α → List α
  | [] => id
  | x :: xs => afterLesser x (woven xs)

def merged (xs ys : List α) : List α :=
  match woven xs ys with
  | [] => []
  | x :: rest => distinctFrom x rest

/-- The polyline with vertices added so that no two are farther apart than the resolution.
Every vertex is kept, so the shape stays the same. -/
def resample (line : Polyline α) (resolution : α) : Except Fault (Polyline α) :=
  let line := withoutRepeats line
  if List.length line < 2 then .ok line
  else do
    let total := planarLength line
    let pieces ← pieceCount total resolution
    return (merged (evenly total pieces) (arcLengths line)).map fun x => placeAt x (knots line)

end Polyline

end LaneRoute
