import LaneRoute.Pose
import LaneRoute.Route.Spelling

/-!
# Routes

The answer to a planning request.
-/

set_option autoImplicit false

namespace LaneRoute

/-- A plan: where it starts and ends and the sections between, with their spellings. Without
sections it stands for a plan that failed. -/
structure Route (α : Type) where
  start : Option (Pose α)
  goal : Option (Pose α)
  sections : List RouteSection
  spelled : List SpelledSection := sections.map .ofSection

namespace Route

variable {α : Type}

def empty : Route α := ⟨none, none, [], []⟩

def isEmpty (r : Route α) : Bool := r.sections.isEmpty

def preferredIds (r : Route α) : List Int := r.sections.map (·.preferred)

def preferredWords (r : Route α) : List Document := r.spelled.map (·.preferred)

def spelledLanes (r : Route α) : List (Document × Bool) :=
  (r.sections.zip r.spelled).flatMap fun (s, spelled) =>
    spelled.primitives.zip (s.primitives.map fun id => decide (id = s.preferred))

def poseText : Option (Pose Float) → String
  | some p => p.text
  | none => Document.null.display

def text (r : Route Float) : String :=
  "Route(start=" ++ poseText r.start ++ ", goal=" ++ poseText r.goal ++ ", sections="
    ++ Decimal.digits r.sections.length ++ ")"

end Route

end LaneRoute
