import LaneRoute.Network.Lateral

/-!
# Route sections

A section holds the lanes that can be driven side by side at one point of a route, and the
one of them that the route follows. A path of segments is folded into sections: a lane change
stays in its section and makes the target lane the preferred one.
-/

set_option autoImplicit false

namespace LaneRoute

structure RouteSection where
  preferred : Int
  primitives : List Int
deriving DecidableEq

namespace RouteSection

/-- The preferred lane must be one of the lanes. -/
def make (preferred : Int) (primitives : List Int) : Except Fault RouteSection :=
  if preferred ∈ primitives then .ok ⟨preferred, primitives⟩
  else .error (.notAMember preferred primitives)

def text (s : RouteSection) : String :=
  "RouteSection(preferred=" ++ Decimal.integer s.preferred ++ ", primitives="
    ++ Document.displayIds s.primitives ++ ")"

end RouteSection

namespace RouteSections

def withoutRepeats : List Int → List Int
  | a :: b :: rest => if a = b then withoutRepeats (b :: rest) else a :: withoutRepeats (b :: rest)
  | ids => ids

variable {α : Type}

def routeIds (net : RoadNetwork α) (path : List Int) : Except Fault (List Int) := do
  return path ++ (← path.mapM net.laneChangeNeighbors).flatten

def fold (net : RoadNetwork α) (routeIds : List Int) (sections : List RouteSection) (id : Int) :
    Except Fault (List RouteSection) := do
  let opened := do
    let lanes ← net.lateralNeighbors id
    return (← RouteSection.make id (lanes.filter (· ∈ routeIds))) :: sections
  match sections with
  | [] => opened
  | last :: before =>
    if id ∈ (← net.lateralNeighbors last.preferred) then
      return (← RouteSection.make id last.primitives) :: before
    else opened

def ofPath (net : RoadNetwork α) (path : List Int) : Except Fault (List RouteSection) := do
  let path := withoutRepeats path
  let ids ← routeIds net path
  return (← path.foldlM (fold net ids) []).reverse

/-- Whether a lane comes again two or more sections after the section that it was first met
in; `seen` holds these first sections. -/
def loopFrom (seen : List (Int × Nat)) (index : Nat) : List RouteSection → Bool
  | [] => false
  | s :: rest =>
    let seen := s.primitives.foldl (fun seen id =>
      if (seen.lookup id).isSome then seen else seen ++ [(id, index)]) seen
    s.primitives.any (fun id => (seen.lookup id).any fun first => first + 1 < index)
      || loopFrom seen (index + 1) rest

/-- Whether some lane is in two sections that do not follow each other. -/
def hasLoop (sections : List RouteSection) : Bool := loopFrom [] 0 sections

end RouteSections

end LaneRoute
