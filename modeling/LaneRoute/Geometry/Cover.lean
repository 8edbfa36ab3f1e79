import LaneRoute.Geometry.Broken
import LaneRoute.Geometry.Slab

/-!
# Covering

Whether an area lies inside a region. All of its boundary must lie in the region, borders
included, and so must what it encloses; and some of it must be inner to the region, which is a
condition only for a boundary that encloses nothing.
-/

set_option autoImplicit false

namespace LaneRoute.Slab

abbrev Interval := Rat × Rat

def heights (s : Stretch) : Interval := (s.1.height, s.2.height)

structure Upright where
  x : Rat
  low : Rat
  high : Rat

def upright? (p q : Point Rat) : Option Upright :=
  if p.x = q.x then some ⟨p.x, lesser p.y q.y, greater p.y q.y⟩ else none

def uprights (ring : Ring Float) : List Upright :=
  ring.edges.filterMap fun e => upright? (exactPoint e.1) (exactPoint e.2)

def joinedIntervalsFrom (i : Interval) : List Interval → List Interval
  | [] => [i]
  | j :: rest =>
    if j.1 ≤ i.2 then joinedIntervalsFrom (i.1, greater i.2 j.2) rest
    else i :: joinedIntervalsFrom j rest

def joinedIntervals (is : List Interval) : List Interval :=
  match is.mergeSort fun i j => decide (i.1 ≤ j.1) with
  | [] => []
  | i :: rest => joinedIntervalsFrom i rest

/-- How a region looks beside vertical lines. -/
structure Territory where
  inner : Bool → Rat → List Interval
  border : List Upright

/-- One area as it was drawn: what a ray to it crosses an odd number of times. -/
def Territory.ofRing (ring : Ring Float) : Territory where
  inner ahead x := (stretches isOdd 0 none (marks ahead x (edgesOf ring))).map heights
  border := uprights ring

def Territory.ofUnion (rings : List (Ring Float)) : Territory :=
  let shapes := rings.map shape
  ⟨fun ahead x => (unionStretches ahead shapes x).map heights, []⟩

def Interval.within (i : Interval) (outer : List Interval) : Bool :=
  outer.any fun o => o.1 ≤ i.1 && i.2 ≤ o.2

namespace Territory

def closed (t : Territory) (x : Rat) : List Interval := joinedIntervals (t.inner true x)

def closedOn (t : Territory) (x : Rat) : List Interval :=
  let borders := (t.border.filter (·.x = x)).map fun u => (u.low, u.high)
  joinedIntervals (t.inner false x ++ t.inner true x ++ borders)

def holds (t : Territory) (u : Upright) : Bool := Interval.within (u.low, u.high) (t.closedOn u.x)

def isInner (t : Territory) (x height : Rat) : Bool :=
  (t.inner true x).any fun i => i.1 < height && height < i.2

def reachesInner (t : Territory) (u : Upright) : Bool :=
  (t.inner false u.x).any fun i => (t.inner true u.x).any fun j =>
    let low := greater i.1 j.1
    let high := lesser i.2 j.2
    if u.low = u.high then
      low < u.low && u.low < high
        && !t.border.any fun b => b.x = u.x && b.low ≤ u.low && u.low ≤ b.high
    else
      let low := greater low u.low
      let high := lesser high u.high
      low < high && !t.border.any fun b => b.x = u.x && b.low ≤ low && high ≤ b.high

end Territory

def Territory.covers (t : Territory) (ring : Ring Float) (slabs : List (Rat × Rat)) : Bool :=
  let edges := edgesOf ring
  let sections := slabs.map fun slab =>
    let x := middle slab
    (x, (stretches isOdd 0 none (marks true x edges)).map heights)
  let standing := uprights ring
  sections.all (fun s => let outer := t.closed s.1; s.2.all (Interval.within · outer))
    && standing.all t.holds
    && (sections.any (fun s => s.2.any fun i => i.1 < i.2 || t.isInner s.1 i.1)
      || standing.any t.reachesInner)

/-- The slabs over an area. Crossings of edges that do not meet the rectangle around the area
do not matter. -/
def slabsOver (ring : Ring Float) (edges : List Edge) : List (Rat × Rat) :=
  let around := ring.box
  let low := exactPoint ⟨around.minX, around.minY⟩
  let high := exactPoint ⟨around.maxX, around.maxY⟩
  let near := edges.filter fun e =>
    e.left.x < high.x && low.x < e.right.x && e.lowest ≤ high.y && low.y ≤ e.highest
  let own := edgesOf ring
  between ((borders (own ++ edges) (own ++ near)).filter fun x => low.x ≤ x && x ≤ high.x)

def coversWith (territory : List (Ring Float) → Territory) (rings : List (Ring Float))
    (ring : Ring Float) : Bool :=
  let near := rings.filter fun r => r.box.meets ring.box
  ring.vertices.all (fun p => near.any (·.contains p))
    && (territory near).covers ring (slabsOver ring (near.flatMap edgesOf))

def ofFirst : List (Ring Float) → Territory
  | ring :: _ => .ofRing ring
  | [] => ⟨fun _ _ => [], []⟩

/-- Whether a region covers an area. A union is not compared with an area of unknown places
that may lie in it. -/
def covers (region : Region Float) (ring : Ring Float) : Except Fault Bool :=
  match region with
  | .empty => .ok false
  | .single outer =>
    if isFinite outer && isFinite ring then .ok (coversWith ofFirst [outer] ring)
    else Broken.liesIn outer ring
  | .union rings =>
    if isFinite ring then .ok (coversWith Territory.ofUnion rings ring)
    else if (Ring.box? (rings.flatMap (·.vertices))).any (·.holdsBox ring.box)
      && ring.vertices.head?.any fun p => rings.any (·.contains p) then .error .badShape
    else .ok false

instance : Planar Float where
  isSound := isSound
  hasExtent := hasExtent
  covers := covers
  enclosed := enclosed

end LaneRoute.Slab

namespace LaneRoute.Region

def area : Region Float → Float
  | empty => 0
  | single ring => ring.area
  | union rings => Binary.nearest (((Slab.unionTrapezoids rings).map (·.area)).foldr (· + ·) 0)

def box? : Region Float → Option (Ring.Box Float)
  | empty => none
  | single ring => some ring.box
  | union rings => Ring.box? ((Slab.unionTrapezoids rings).flatMap (·.ring.vertices))

end LaneRoute.Region
