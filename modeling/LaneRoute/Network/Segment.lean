import LaneRoute.Document.Basic
import LaneRoute.Geometry.Polyline
import LaneRoute.Geometry.Ring
import LaneRoute.Number.Decimal
import LaneRoute.Number.Double

/-!
# Segments

A segment is a directed stretch of lane between two bounds. It names what follows and
precedes it and what lies beside it; whether these exist is the network's concern.
-/

set_option autoImplicit false

namespace LaneRoute

inductive SegmentKind where
  | other
  | road
  | shoulder
  | parking
deriving DecidableEq

def SegmentKind.name : SegmentKind → String
  | other => "OTHER"
  | road => "ROAD"
  | shoulder => "SHOULDER"
  | parking => "PARKING"

structure Side where
  neighbor : Option Int
  sameDirection : Flag
  laneChange : Flag

/-- How a segment writes the ids that it names. An id without a spelling is written in digits. -/
structure Spelling where
  successors : List Document := []
  predecessors : List Document := []
  left : Option Document := none
  right : Option Document := none

structure Segment (α : Type) where
  id : Int
  kind : SegmentKind
  leftBound : Polyline α
  rightBound : Polyline α
  center : Polyline α
  successors : List Int
  predecessors : List Int
  left : Side
  right : Side
  drivable : Flag
  spelling : Spelling := {}

namespace Segment

variable {α : Type}

def isRoad (s : Segment α) : Bool := s.kind = .road

def isShoulder (s : Segment α) : Bool := s.kind = .shoulder

def neighbors (s : Segment α) : List Int := s.left.neighbor.toList ++ s.right.neighbor.toList

def references (s : Segment α) : List Int := s.successors ++ s.predecessors ++ s.neighbors

variable [Scalar α]

def length (s : Segment α) : α := Polyline.planarLength s.center

/-- Along the left bound and back along the right one. -/
def outlinePoints (left right : Polyline α) : List (Point α) :=
  left.map Vertex.flat ++ (right.map Vertex.flat).reverse

def outline (s : Segment α) : Ring α := Ring.through (outlinePoints s.leftBound s.rightBound)

/-- The line halfway between two bounds, with as many vertices as the longer list of the two:
each is the midpoint of the places at one share of both lengths. -/
def middle (left right : Polyline α) : Polyline α :=
  let pieces := max (List.length left) (List.length right) - 1
  List.zipWith Vertex.midpoint (Polyline.atEvenShares left pieces)
    (Polyline.atEvenShares right pieces)

def headingAt (s : Segment α) (p : Point α) : α := Polyline.headingAt s.center p

def text (s : Segment Float) : String :=
  "Segment(id=" ++ Decimal.integer s.id ++ ", type=" ++ s.kind.name ++ ", length="
    ++ Decimal.fixed 2 s.length ++ ")"

end Segment

end LaneRoute
