import LaneRoute.Command.Run
import LaneRoute.Map.Sample

/-!
# Command line

Plans a route through checkpoints and shows its sections. The exit code is 2 for a command
line that was refused and 1 for a command that failed.
-/

set_option autoImplicit false

namespace LaneRoute.Main

def usage : String :=
  "usage: [-h] [--map MAP] [--cfg_file CFG_FILE] [--planner PLANNER] "
    ++ "--checkpoints X,Y,YAW [X,Y,YAW ...] [--plot]"

def textOf (file : Option String) (usual : String) : IO String :=
  match file with
  | some path => IO.FS.readFile path
  | none => pure usual

def runCommand (c : Command) : IO UInt32 := do
  let mapText ← textOf c.mapFile Map.twoLaneRoad
  let configText ← textOf c.configFile ""
  let report := c.run mapText configText
  for l in Command.consoleLines configText report.notices do IO.eprintln l
  match report.result with
  | .ok lines =>
    for l in lines do IO.println l
    return 0
  | .error fault =>
    IO.eprintln (fault.message?.getD "The command failed.")
    return 1

end LaneRoute.Main

def main (arguments : List String) : IO UInt32 := do
  match LaneRoute.Command.ofArguments arguments with
  | .ok c => LaneRoute.Main.runCommand c
  | .error .help =>
    IO.println LaneRoute.Main.usage
    return 0
  | .error _ =>
    IO.eprintln LaneRoute.Main.usage
    return 2
