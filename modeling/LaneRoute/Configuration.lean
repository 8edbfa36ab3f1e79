import LaneRoute.Document.Text
import LaneRoute.Planner.Settings

/-!
# Configurations

A configuration text and its sections. One that holds nothing is a configuration without
sections; one that is no mapping has none that could be asked for.
-/

set_option autoImplicit false

namespace LaneRoute.Configuration

def ofText (text : String) : Except Fault Document := do
  let d ← Document.ofText (.setting .unreadable) text
  return if d.isSet then d else .mapping []

def part (d : Document) (key : String) : Except Fault Document :=
  match d with
  | .mapping entries => .ok ((Document.lookup? key entries).getD (.mapping []))
  | _ => .error .noSuchPart

variable {α : Type}

def settings (d : Document) : Report (Notice α) StoredSettings := do
  StoredSettings.ofDocument (← Report.ofExcept (part d "planner"))

def vehicle (d : Document) : Except Fault (Vehicle Float) := do
  Vehicle.ofDocument (← part d "vehicle")

def settingsOfText (text : String) : Report (Notice α) StoredSettings := do
  settings (← Report.ofExcept (ofText text))

end LaneRoute.Configuration
