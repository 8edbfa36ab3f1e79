import LaneRoute.Document.Display

/-!
# Faults

Why a request has no answer. A fault is a cause; the wording of those that speak to a
reader is in one place at the end.
-/

set_option autoImplicit false

namespace LaneRoute

inductive MapFault where
  | noSegments
  | missingField (segment : Document) (field : String)
  /-- The shape is given when it is the shape of a bound that has too few points. -/
  | malformed (segment : Document) (shape : Option (List Nat))
  | duplicateId (id : Int)
  | badLength (id : Int) (length : Float)
  | unknownReference (id : Int) (reference : Document)
  | unreadable

inductive SettingFault where
  | vehicleNumber (key : String) (value : Document)
  | plannerFlag (key : String) (value : Document)
  | plannerNumber (key : String) (value : Document)
  | unreadable

inductive Request where
  | route
  | goalCheck

inductive Fault where
  | map (fault : MapFault)
  | setting (fault : SettingFault)
  | noMap (request : Request)
  | noSuchPlanner (type : Document)
  | tooFewCheckpoints (count : Nat)
  | shortBound (shape : List Nat)
  | notAMember (preferred : Int) (primitives : List Int)
  | unknown
  | outOfRange
  | wrongKind
  | noSuchPart
  | badValue
  | tooLarge
  | badShape
  | missingFolder
  | usage
  /-- The command line asked only how it is used. -/
  | help

/-- The extents of a table of values, in parentheses; a single one is followed by a comma. -/
def showShape (shape : List Nat) : String :=
  match shape with
  | [n] => "(" ++ Decimal.digits n ++ ",)"
  | _ => "(" ++ ", ".intercalate (shape.map Decimal.digits) ++ ")"

def shortBoundText (shape : List Nat) : String :=
  "a bound needs at least 2 points, got shape " ++ showShape shape

def MapFault.message : MapFault → String
  | noSegments => "The map has no 'segments'"
  | missingField segment field =>
    "Segment " ++ segment.bare ++ " misses the field " ++ Document.quoted field
  | malformed segment none => "Segment " ++ segment.bare ++ " is malformed"
  | malformed segment (some shape) =>
    "Segment " ++ segment.bare ++ " is malformed: " ++ shortBoundText shape
  | duplicateId id => "Duplicated segment id " ++ Decimal.integer id
  | badLength id length =>
    "Segment " ++ Decimal.integer id ++ " has a non-positive length ("
      ++ Shortest.text length ++ ")"
  | unknownReference id reference =>
    "Segment " ++ Decimal.integer id ++ " refers to unknown segment " ++ reference.bare
  | unreadable => "Cannot parse map file"

def SettingFault.message : SettingFault → String
  | vehicleNumber key value =>
    "Vehicle parameter '" ++ key ++ "' must be a number, got " ++ value.display
  | plannerFlag key value =>
    "Planner parameter '" ++ key ++ "' must be a boolean, got " ++ value.display
  | plannerNumber key value =>
    "Planner parameter '" ++ key ++ "' must be a number, got " ++ value.display
  | unreadable => "Cannot parse config file"

def Fault.message? : Fault → Option String
  | map fault => some fault.message
  | setting fault => some fault.message
  | noMap .route => some "Cannot plan a route before a map is set"
  | noMap .goalCheck => some "Cannot validate a goal before a map is set"
  | noSuchPlanner type => some ("Planner with type <" ++ type.bare ++ "> does not exist.")
  | tooFewCheckpoints count =>
    some ("At least a start and a goal are needed, got " ++ Decimal.digits count ++ " checkpoints")
  | shortBound shape => some (shortBoundText shape)
  | notAMember preferred primitives =>
    some ("preferred segment " ++ Decimal.integer preferred ++ " is not a member of "
      ++ Document.displayIds primitives)
  | _ => none

end LaneRoute
