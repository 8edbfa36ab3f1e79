import LaneRoute.Command.Basic
import LaneRoute.Drawing
import LaneRoute.Geometry.Cover
import LaneRoute.Log
import LaneRoute.Map.Text
import LaneRoute.Planner.Basic

/-!
# Running a command

From the texts of a map and a configuration to the lines that are shown. Notices below the
level of the log are dropped.
-/

set_option autoImplicit false

namespace LaneRoute.Command

def source : String := "mission_planner"

def sectionLine (index : Nat) (s : SpelledSection) : String :=
  "section " ++ Decimal.digits index ++ ": " ++ s.text

def lines (result : PlanningResult) (route : Route Float) : List String :=
  if route.isEmpty then ["Planning failed: " ++ result.name]
  else ("Goal: " ++ Route.poseText route.goal) :: route.spelled.mapIdx sectionLine

def perform (c : Command) (configuration : Document) (mapText : String) :
    Report (Notice Float) (List String) := do
  let stored ← Configuration.settings configuration
  let vehicle ← Report.ofExcept (Configuration.vehicle configuration)
  let network ← Report.ofExcept (Map.ofText mapText stored.settings.laneChangeCost)
  Report.ofExcept (Planner.checkType (.text c.planner))
  let (planner, planned) :=
    ((Planner.create stored.settings vehicle).setMap network).plan c.checkpoints
  let route ← planned
  if c.plot then
    let footprint := (planner.markers route).footprint
    let _ ← Report.ofExcept (Drawing.ofRoute network route footprint)
    return lines planner.lastResult route
  else return lines planner.lastResult route

def withLog (log : LogSettings) (r : Report (Notice Float) (List String)) :
    Report (Notice Float) (List String) :=
  { r with notices := r.notices.filter fun n => log.keeps (n.entry source) }

def run (c : Command) (mapText configText : String) : Report (Notice Float) (List String) := do
  let configuration ← Report.ofExcept (Configuration.ofText configText)
  let log ← Report.ofExcept (LogSettings.ofConfiguration configuration)
  withLog log (c.perform configuration mapText)

def consoleLines (configText : String) (notices : List (Notice Float)) : List String :=
  let log := do LogSettings.ofConfiguration (← Configuration.ofText configText)
  match log with
  | .ok log =>
    if log.toConsole then notices.map fun n => "\t".intercalate (n.entry source).columns else []
  | .error _ => []

end LaneRoute.Command
