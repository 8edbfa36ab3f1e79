import LaneRoute.Pose
import LaneRoute.Report

/-!
# Notices

What a planner remarks while it works. None of them stops a request.
-/

set_option autoImplicit false

namespace LaneRoute

inductive Notice (α : Type) where
  | noSegmentForPair
  | noDrivableRoute
  | noSegmentAroundGoal
  | footprintExceedsLane
  | goalRejected (goal : Pose α)
  | routeFailed
  | goalInvalid
  | loopDetected
  | mapNotSet
  | unknownSetting (key : String)

namespace Notice

def isError {α : Type} : Notice α → Bool
  | mapNotSet => true
  | _ => false

def text : Notice Float → String
  | noSegmentForPair => "No road segment found for checkpoint pair"
  | noDrivableRoute => "No route avoiding no drivable lanes found, keeping the shortest route"
  | noSegmentAroundGoal => "No road segment found around the goal"
  | footprintExceedsLane => "Goal's footprint exceeds lane!"
  | goalRejected goal =>
    "Goal " ++ goal.text ++ " is neither on a lane with an acceptable angle nor in a parking area"
  | routeFailed => "Failed to plan route."
  | goalInvalid => "Goal is not valid! Please check position and angle of goal_pose"
  | loopDetected => "Loop detected within route!"
  | mapNotSet => "Map is not set, refusing to plan a route"
  | unknownSetting key => "Unknown planner parameter '" ++ key ++ "' is ignored"

def line (n : Notice Float) : String :=
  (if n.isError then "ERROR: " else "WARNING: ") ++ n.text

end Notice

end LaneRoute
