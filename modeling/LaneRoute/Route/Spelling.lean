import LaneRoute.Network.Spelling
import LaneRoute.Route.Section

/-!
# Spelled sections

The sections of a path with their ids as the segments on the path write them.
-/

set_option autoImplicit false

namespace LaneRoute

structure SpelledSection where
  preferred : Document
  primitives : List Document

namespace SpelledSection

def ofSection (s : RouteSection) : SpelledSection := ⟨.int s.preferred, s.primitives.map .int⟩

def text (s : SpelledSection) : String :=
  "preferred " ++ s.preferred.bare ++ ", primitives " ++ (Document.list s.primitives).display

end SpelledSection

namespace RouteSections

variable {α : Type}

def spelledIds (net : RoadNetwork α) (path : List Int) : List (Int × Document) :=
  let reached := path.flatMap fun id => ((net.segment? id).map net.changeWords).getD []
  path.map (fun id => (id, .int id)) ++ reached

abbrev Spelled := Int × SpelledSection

def spelledOpening (net : RoadNetwork α) (routeIds : List Int) (step : Int × Document) :
    Spelled :=
  let lanes := (net.lateralWords step.1 step.2).filter (·.1 ∈ routeIds)
  (step.1, ⟨step.2, lanes.map (·.2)⟩)

def spelledFold (net : RoadNetwork α) (routeIds : List Int) (sections : List Spelled)
    (step : Int × Document) : List Spelled :=
  match sections with
  | [] => [spelledOpening net routeIds step]
  | last :: before =>
    if ((net.lateralWords last.1 last.2.preferred).map (·.1)).contains step.1 then
      (step.1, ⟨step.2, last.2.primitives⟩) :: before
    else spelledOpening net routeIds step :: last :: before

def spelled (net : RoadNetwork α) (path : List Int) : List SpelledSection :=
  let path := withoutRepeats path
  let routeIds := (spelledIds net path).map (·.1)
  ((path.zip (net.pathWords path)).foldl (spelledFold net routeIds) []).reverse.map (·.2)

end RouteSections

end LaneRoute
