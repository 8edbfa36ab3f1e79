import LaneRoute.Document.Lookup
import LaneRoute.Document.Number
import LaneRoute.Notice
import LaneRoute.Vehicle

/-!
# Settings

The parameters of a planner and of its vehicle, and how they are read from documents. A
planner's flags take marks only and its numbers take numbers only; keys that mean nothing are
noticed and left out.
-/

set_option autoImplicit false

namespace LaneRoute

/-- The angle is in degrees; margins, costs and resolutions are lengths. -/
structure Settings (α : Type) where
  goalAngle : α
  correctGoal : Bool
  avoidUndrivable : Bool
  checkFootprint : Bool
  searchMargin : α
  laneChangeCost : α
  goalResolution : α
  elevationResolution : α

namespace Settings

def map {α β : Type} (f : α → β) (s : Settings α) : Settings β where
  goalAngle := f s.goalAngle
  correctGoal := s.correctGoal
  avoidUndrivable := s.avoidUndrivable
  checkFootprint := s.checkFootprint
  searchMargin := f s.searchMargin
  laneChangeCost := f s.laneChangeCost
  goalResolution := f s.goalResolution
  elevationResolution := f s.elevationResolution

def standard : Settings Float where
  goalAngle := 45
  correctGoal := false
  avoidUndrivable := false
  checkFootprint := true
  searchMargin := 2
  laneChangeCost := 2
  goalResolution := 1
  elevationResolution := 5

def flags (s : Settings Float) : List (String × Bool) :=
  [("enable_correct_goal_pose", s.correctGoal),
   ("consider_no_drivable_lanes", s.avoidUndrivable),
   ("check_footprint_inside_lanes", s.checkFootprint)]

def numbers (s : Settings Float) : List (String × Float) :=
  [("goal_angle_threshold_deg", s.goalAngle),
   ("footprint_search_margin", s.searchMargin),
   ("lane_change_cost", s.laneChangeCost),
   ("fine_centerline_resolution", s.goalResolution),
   ("elevation_centerline_resolution", s.elevationResolution)]

def withFlag {α : Type} (s : Settings α) (key : String) (b : Bool) : Settings α :=
  match key with
  | "enable_correct_goal_pose" => { s with correctGoal := b }
  | "consider_no_drivable_lanes" => { s with avoidUndrivable := b }
  | "check_footprint_inside_lanes" => { s with checkFootprint := b }
  | _ => s

def withNumber {α : Type} (s : Settings α) (key : String) (x : α) : Settings α :=
  match key with
  | "goal_angle_threshold_deg" => { s with goalAngle := x }
  | "footprint_search_margin" => { s with searchMargin := x }
  | "lane_change_cost" => { s with laneChangeCost := x }
  | "fine_centerline_resolution" => { s with goalResolution := x }
  | "elevation_centerline_resolution" => { s with elevationResolution := x }
  | _ => s

def isFlagKey (key : String) : Bool := standard.flags.any (·.1 = key)

def isNumberKey (key : String) : Bool := standard.numbers.any (·.1 = key)

end Settings

/-- What a settings document held: the parameters, and numbers under names that are taken by
other things than parameters. -/
structure StoredSettings where
  settings : Settings Float
  others : List (String × Float)

namespace StoredSettings

def standard : StoredSettings := ⟨Settings.standard, []⟩

/-- Names in use for other things than parameters, under which a number is stored, too. Most are
those that every object has, which differ between versions: these are the names of 3.11 and 3.12,
and 3.13 adds `__firstlineno__` and `__static_attributes__`. -/
def takenNames : List String :=
  ["from_dict", "from_file", "__delattr__", "__dir__", "__doc__", "__eq__", "__format__", "__ge__",
   "__getattribute__", "__getstate__", "__gt__", "__hash__", "__init__", "__init_subclass__",
   "__le__", "__lt__", "__module__", "__ne__", "__new__", "__reduce__", "__reduce_ex__",
   "__repr__", "__setattr__", "__sizeof__", "__str__", "__subclasshook__"]

/-- Taken names that admit no number, with the fault of trying. -/
def closedNames : List (String × Fault) :=
  [("__class__", .wrongKind), ("__dict__", .wrongKind), ("__weakref__", .noSuchPart)]

def putOther (key : String) (x : Float) : List (String × Float) → List (String × Float)
  | [] => [(key, x)]
  | (k, y) :: rest => if k = key then (k, x) :: rest else (k, y) :: putOther key x rest

/-- The number that a value is, marks not included. -/
def number (key : String) : Document → Except Fault Float
  | .int i => Document.realOfInt i
  | .real x => .ok x
  | value => .error (.setting (.plannerNumber key value))

def flag (key : String) : Document → Except Fault Bool
  | .bool b => .ok b
  | value => .error (.setting (.plannerFlag key value))

variable {α : Type}

def put (stored : StoredSettings) (key : String) (value : Document) :
    Report (Notice α) StoredSettings :=
  if Settings.isFlagKey key then Report.ofExcept do
    return { stored with settings := stored.settings.withFlag key (← flag key value) }
  else if Settings.isNumberKey key then Report.ofExcept do
    return { stored with settings := stored.settings.withNumber key (← number key value) }
  else if takenNames.contains key then Report.ofExcept do
    return { stored with others := putOther key (← number key value) stored.others }
  else match closedNames.lookup key with
    | some fault => Report.ofExcept do
      let _ ← number key value
      .error fault
    | none => do
      Report.notice (.unknownSetting key)
      return stored

def putEntry (stored : StoredSettings) (entry : Document × Document) :
    Report (Notice α) StoredSettings :=
  match entry.1 with
  | .text key => stored.put key entry.2
  | _ => Report.ofExcept (.error .wrongKind)

def ofEntries (entries : List (Document × Document)) : Report (Notice α) StoredSettings :=
  entries.foldlM putEntry standard

/-- Read a settings document; one that is not set holds nothing. -/
def ofDocument (d : Document) : Report (Notice α) StoredSettings :=
  match d with
  | .mapping entries => ofEntries entries
  | d => if d.isSet then Report.ofExcept (.error .noSuchPart) else pure standard

end StoredSettings

namespace Vehicle

def measures (v : Vehicle Float) : List (String × Float) :=
  [("wheel_base", v.wheelBase), ("wheel_tread", v.wheelTread),
   ("front_overhang", v.frontOverhang), ("rear_overhang", v.rearOverhang),
   ("left_overhang", v.leftOverhang), ("right_overhang", v.rightOverhang),
   ("vehicle_height", v.height)]

def withMeasure (v : Vehicle Float) (key : String) (x : Float) : Vehicle Float :=
  match key with
  | "wheel_base" => { v with wheelBase := x }
  | "wheel_tread" => { v with wheelTread := x }
  | "front_overhang" => { v with frontOverhang := x }
  | "rear_overhang" => { v with rearOverhang := x }
  | "left_overhang" => { v with leftOverhang := x }
  | "right_overhang" => { v with rightOverhang := x }
  | "vehicle_height" => { v with height := x }
  | _ => v

/-- A measure may be anything that can be read as a number. -/
def measure (key : String) (value : Document) : Except Fault Float :=
  match value.toReal with
  | .error .tooLarge => .error .tooLarge
  | .error _ => .error (.setting (.vehicleNumber key value))
  | .ok x => .ok x

/-- Read the measures that a document mentions; the others keep their standard values. Only
a mapping has values under its keys. -/
def ofDocument (d : Document) : Except Fault (Vehicle Float) :=
  standard.measures.foldlM (fun v m => do
    if ← d.mentions m.1 then
      match d.get? m.1 with
      | some value => return v.withMeasure m.1 (← measure m.1 value)
      | none => .error .wrongKind
    else return v) standard

end Vehicle

end LaneRoute
