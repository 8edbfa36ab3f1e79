import LaneRoute.Document.Number
import LaneRoute.Geometry.Polyline
import LaneRoute.Geometry.Ring
import LaneRoute.Number.Double

/-!
# Tables of numbers

Nested lists read as tables. Every list of one level must have the same extent, and every
value in them must be a number; what is missing is no number but does not count as wrong.
-/

set_option autoImplicit false

namespace LaneRoute

structure Table where
  shape : List Nat
  values : List Float

namespace Table

mutual

/-- The extents of a value; lists of different extents side by side have none. -/
def shape? : Document → Option (List Nat)
  | .list items => do
    match ← shapes? items with
    | [] => return [0]
    | first :: rest => if rest.all (· = first) then return (rest.length + 1) :: first else none
  | _ => some []

def shapes? : List Document → Option (List (List Nat))
  | [] => some []
  | d :: rest => do return (← shape? d) :: (← shapes? rest)

end

mutual

def leaves : Document → List Document
  | .list items => allLeaves items
  | d => [d]

def allLeaves : List Document → List Document
  | [] => []
  | d :: rest => leaves d ++ allLeaves rest

end

def leaf : Document → Except Fault Float
  | .null => .ok (0 / 0)
  | d => d.toReal

def maxDepth : Nat := 64

def read (d : Document) : Except Fault Table :=
  match (shape? d).filter (·.length ≤ maxDepth) with
  | none => .error .badValue
  | some shape => do return ⟨shape, ← (leaves d).mapM leaf⟩

def chunks (width : Nat) : Nat → List Float → List (List Float)
  | 0, _ => []
  | n + 1, xs => xs.take width :: chunks width n (xs.drop width)

def rows? (t : Table) : Option (Nat × List (List Float)) :=
  match t.shape with
  | [count, width] => some (width, chunks width count t.values)
  | _ => none

def vertex (row : List Float) : Vertex Float := ⟨row.getD 0 0, row.getD 1 0, row.getD 2 0⟩

/-- A table of points with the number of values per point. Values after the third are not
used, and points without a third have elevation zero. -/
structure Points where
  width : Nat
  line : Polyline Float

def Points.flat (p : Points) : List (Point Float) := p.line.map Vertex.flat

/-- The rows of a table as points; other tables have too few extents or too many. -/
def points (t : Table) : Except Fault Points :=
  match t.rows? with
  | some (width, rows) => .ok ⟨width, rows.map vertex⟩
  | none => .error (if t.shape.length < 2 then .outOfRange else .badValue)

def bound (t : Table) : Except Fault Points :=
  match t.rows? with
  | some (width, a :: b :: rest) => .ok ⟨width, (a :: b :: rest).map vertex⟩
  | _ => .error (.shortBound t.shape)

def readBound (d : Document) : Except Fault Points := do (← read d).bound

/-- Points of the plane need two values. -/
def Points.boundary (p : Points) : Except Fault (Ring Float) :=
  if p.width < 2 then .error .badValue else Ring.ofPoints p.flat

/-- The points of a line. A table with more than two extents is no line; single points in place
of lines are no shapes at all. -/
def linePoints (t : Table) : Except Fault (List (Point Float)) := do
  match t.shape.reverse with
  | size :: 1 :: others =>
    if !others.isEmpty && others.all (0 < ·) && 2 ≤ size && size ≤ 4 then throw .badShape
  | _ => pure ()
  let points ← t.points
  if points.width < 2 then throw .badValue
  return points.flat

end Table

end LaneRoute
