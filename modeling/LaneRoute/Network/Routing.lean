import LaneRoute.Network.Lateral

/-!
# Routing graphs

The directed graph that routes are searched in. Its nodes are the roads; an arc leads to a
successor, at the cost of the successor's length, or to the target of a permitted lane
change, at a fixed cost.
-/

set_option autoImplicit false

namespace LaneRoute

inductive Relation where
  | successor
  | laneChange
deriving DecidableEq

def Relation.name : Relation → String
  | successor => "successor"
  | laneChange => "lane_change"

structure Arc (α : Type) where
  target : Int
  relation : Relation
  weight : α

abbrev RoutingGraph (α : Type) := List (Int × List (Arc α))

namespace RoutingGraph

variable {α : Type}

/-- There is at most one arc to a target: a later one takes the place of an earlier one. -/
def putArc (arcs : List (Arc α)) (new : Arc α) : List (Arc α) :=
  if arcs.any (·.target = new.target) then
    arcs.map fun a => if a.target = new.target then new else a
  else arcs ++ [new]

def nodes (g : RoutingGraph α) : List Int := g.map Prod.fst

def restrict (keep : Int → Bool) (g : RoutingGraph α) : RoutingGraph α :=
  (g.filter fun n => keep n.1).map fun n => (n.1, n.2.filter fun a => keep a.target)

end RoutingGraph

namespace RoadNetwork

variable {α : Type} [Scalar α]

def successorArcs (net : RoadNetwork α) (s : Segment α) : List (Arc α) :=
  (net.roadsAmong s.successors).map fun t => ⟨t.id, .successor, t.length⟩

def changeArcs (net : RoadNetwork α) (s : Segment α) : List (Arc α) :=
  (net.changeTargets s).map fun id => ⟨id, .laneChange, net.laneChangeCost⟩

def arcs (net : RoadNetwork α) (s : Segment α) : List (Arc α) :=
  (net.successorArcs s ++ net.changeArcs s).foldl RoutingGraph.putArc []

def graph (net : RoadNetwork α) : RoutingGraph α := net.roads.map fun s => (s.id, net.arcs s)

def drivableGraph (net : RoadNetwork α) : RoutingGraph α :=
  net.graph.restrict fun id => (net.segment? id).any (·.drivable.isSet)

end RoadNetwork

end LaneRoute
