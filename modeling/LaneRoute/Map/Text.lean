import LaneRoute.Map.Basic
import LaneRoute.Document.Text

/-!
# Map texts

Building a road network from the text of a map file.
-/

set_option autoImplicit false

namespace LaneRoute.Map

def ofText (text : String) (laneChangeCost : Float) : Except Fault (RoadNetwork Float) := do
  ofDocument (← Document.ofText (.map .unreadable) text) laneChangeCost

end LaneRoute.Map
