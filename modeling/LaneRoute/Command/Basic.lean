import LaneRoute.Fault
import LaneRoute.Number.Literal
import LaneRoute.Pose

/-!
# Commands

What can be asked for on a command line: options, each followed by its values. The name of an
option may be cut short as long as no other option starts the same way, and a value may be
attached to it by an equals sign.
-/

set_option autoImplicit false

namespace LaneRoute

inductive Switch where
  | help
  | map
  | config
  | planner
  | checkpoints
  | plot
deriving DecidableEq

def Switch.named : List (String × Switch) :=
  [("--help", help), ("--map", map), ("--cfg_file", config), ("--planner", planner),
   ("--checkpoints", checkpoints), ("--plot", plot)]

def Switch.candidates (name : List Char) : List Switch :=
  (named.filter fun s => name.isPrefixOf s.1.toList).map Prod.snd

inductive Word where
  | value (text : String)
  /-- Short names stand for themselves and for those of the letters attached to them. -/
  | switch (switch : Switch) (isShort : Bool) (attached : Option (List Char))
  | stranger

structure SwitchGroup where
  word : Word
  following : List String

/-- Request for a route; the checkpoints are the first and the last pose and those between. -/
structure Command where
  mapFile : Option String
  configFile : Option String
  planner : String
  checkpoints : List (Pose Float)
  plot : Bool

namespace Command

/-! ## Switches and values -/

def isDigits (cs : List Char) : Bool := !cs.isEmpty && cs.all fun c => (Text.digit? c).isSome

/-- A minus sign and a number in digits, with a point at most and a line break at its end. -/
def isNegativeNumber : List Char → Bool
  | '-' :: cs =>
    let cs := if cs.getLast? = some '\n' then cs.dropLast else cs
    match Literal.cut (· = '.') cs with
    | (whole, none) => isDigits whole
    | (whole, some fraction) => (whole.isEmpty || isDigits whole) && isDigits fraction
  | _ => false

/-- What starts with a minus sign is no value, unless it is nothing else, a number, or unlike
any switch and with a space in it. A name cut too short to tell is refused. -/
def word (arg : String) : Except Fault Word :=
  let cs := arg.toList
  let other := if isNegativeNumber cs || cs.contains ' ' then Word.value arg else .stranger
  match cs with
  | ['-'] => .ok (.value arg)
  | '-' :: '-' :: _ =>
    let (name, attached) := Literal.cut (· = '=') cs
    match Switch.candidates name with
    | [] => .ok other
    | [switch] => .ok (.switch switch false attached)
    | _ => .error .usage
  | ['-', 'h'] => .ok (.switch .help true none)
  | '-' :: 'h' :: '=' :: attached => .ok (.switch .help true (some attached))
  | '-' :: 'h' :: attached => .ok (.switch .help true (some attached))
  | '-' :: _ => .ok other
  | _ => .ok (.value arg)

/-- Two minus signs alone, and all after them, belong to no switch. -/
def words : List String → Except Fault (List Word)
  | [] => .ok []
  | arg :: rest =>
    if arg = "--" then .ok ((arg :: rest).map fun _ => .stranger)
    else do return (← word arg) :: (← words rest)

def groups : List Word → List String × List SwitchGroup
  | [] => ([], [])
  | word :: rest =>
    let (values, later) := groups rest
    match word with
    | .value text => (text :: values, later)
    | word => ([], ⟨word, values⟩ :: later)

/-! ## Reading -/

def checkpoint (text : String) : Except Fault (Pose Float) :=
  match (text.splitOn ",").mapM Literal.real? with
  | some [x, y, yaw] => .ok ⟨x, y, 0, yaw⟩
  | _ => .error .usage

def blank : Command := ⟨none, none, "default", [], false⟩

def oneValue (attached : Option (List Char)) (following : List String) :
    Except Fault (String × List String) :=
  match attached, following with
  | some value, following => .ok (String.ofList value, following)
  | none, value :: rest => .ok (value, rest)
  | none, [] => .error .usage

structure Reading where
  command : Command
  hasSurplus : Bool

def Reading.with (r : Reading) (c : Command) (left : List String) : Reading :=
  ⟨c, r.hasSurplus || !left.isEmpty⟩

/-- Take one switch; a later one takes the place of an earlier one. A call for help is answered
as soon as it is reached. -/
def Reading.take (r : Reading) (g : SwitchGroup) : Except Fault Reading := do
  let c := r.command
  match g.word with
  | .switch .help isShort attached =>
    match attached with
    | none => .error .help
    | some letters =>
      if isShort && !letters.isEmpty && letters.all (· = 'h') then .error .help
      else .error .usage
  | .switch .map _ attached =>
    let (file, left) ← oneValue attached g.following
    return r.with { c with mapFile := some file } left
  | .switch .config _ attached =>
    let (file, left) ← oneValue attached g.following
    return r.with { c with configFile := some file } left
  | .switch .planner _ attached =>
    let (type, left) ← oneValue attached g.following
    return r.with { c with planner := type } left
  | .switch .checkpoints _ attached =>
    let (first, more) ← oneValue attached g.following
    let (more, left) := if attached.isSome then ([], more) else (more, [])
    return r.with { c with checkpoints := ← (first :: more).mapM checkpoint } left
  | .switch .plot _ attached =>
    if attached.isSome then .error .usage
    return r.with { c with plot := true } g.following
  | _ => return { r with hasSurplus := true }

/-- Read a command line. What belongs to no switch is refused when all else has been read. -/
def ofArguments (arguments : List String) : Except Fault Command := do
  let (values, switches) := groups (← words arguments)
  let r ← switches.foldlM Reading.take ⟨blank, !values.isEmpty⟩
  if r.hasSurplus || r.command.checkpoints.isEmpty then .error .usage else return r.command

end Command

end LaneRoute
