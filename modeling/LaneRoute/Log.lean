import LaneRoute.Configuration

/-!
# Logs

From which rank on messages are kept and where they go, as the `logging` section of a
configuration says.
-/

set_option autoImplicit false

namespace LaneRoute

namespace Rank

/-- The named ranks; of two names of one rank the first is shown. -/
def named : List (String × Int) :=
  [("CRITICAL", 50), ("FATAL", 50), ("ERROR", 40), ("WARNING", 30), ("WARN", 30), ("INFO", 20),
   ("DEBUG", 10), ("NOTSET", 0)]

def ofName? (name : String) : Option Int := named.lookup name

def name? (rank : Int) : Option String := (named.find? (·.2 = rank)).map Prod.fst

def name (rank : Int) : String := (name? rank).getD ("Level " ++ Decimal.integer rank)

def ofDocument : Document → Except Fault Int
  | .int i => .ok i
  | .bool b => .ok (if b then 1 else 0)
  | .text s =>
    match ofName? s with
    | some rank => .ok rank
    | none => .error .badValue
  | _ => .error .wrongKind

/-- The name of a rank; one without a name is shown as it was given. -/
def shown (rank : Int) (given : Document) : String :=
  (name? rank).getD ("Level " ++ given.bare)

end Rank

structure LogEntry where
  source : String
  rank : Int
  text : String

def LogEntry.columns (e : LogEntry) : List String := [e.source, Rank.name e.rank, e.text]

def LogEntry.created (source : String) : LogEntry :=
  ⟨source, 10, "Config file loaded and logger created."⟩

def Notice.entry (source : String) (n : Notice Float) : LogEntry :=
  ⟨source, if n.isError then 40 else 30, n.text⟩

structure LogSettings where
  level : Int
  levelName : String
  toConsole : Bool
  file : Option String

namespace LogSettings

def turns (parts : List String) : List String :=
  parts.foldl (fun path part =>
    if part = "" ∨ part = "." then path
    else if part = ".." then path.tail
    else part :: path) []

/-- The folders that are there when a folder has been made: those on the way to it and their
common root, each from its innermost part on. -/
def foldersTo (folder : String) : List (List String) :=
  let parts := folder.splitOn "/"
  (List.range (parts.length + 1)).map fun n => turns (parts.take n)

/-- The path of a log file whose name is counted from a folder. No other folder than this one
is made for it. -/
def path (folder name : String) : Except Fault String :=
  let file := turns ((folder ++ "/" ++ name ++ ".log").splitOn "/")
  if folder.contains '\x00' || name.contains '\x00' then .error .badValue
  else if (foldersTo folder).contains file.tail then .ok ("/".intercalate file.reverse)
  else .error .missingFolder

def textUnder (entries : List (Document × Document)) (key usual : String) : Except Fault String :=
  match Document.lookup? key entries with
  | none => .ok usual
  | some (.text s) => .ok s
  | some _ => .error .wrongKind

def markUnder (entries : List (Document × Document)) (key : String) (usual : Bool) : Bool :=
  ((Document.lookup? key entries).getD (.bool usual)).isSet

def file? (entries : List (Document × Document)) : Except Fault (Option String) := do
  if markUnder entries "log_to_file" false then
    let folder ← textUnder entries "log_file_dir" "logs"
    let name ← textUnder entries "log_file_name" "mission_planner"
    return some (← path folder name)
  else return none

def ofSection : Document → Except Fault LogSettings
  | .mapping entries => do
    let given := (Document.lookup? "level" entries).getD (.text "INFO")
    let level ← Rank.ofDocument given
    return ⟨level, Rank.shown level given, markUnder entries "log_to_console" true,
      ← file? entries⟩
  | _ => .error .noSuchPart

/-- Read the settings of a configuration; one that is not set counts as empty. -/
def ofConfiguration (d : Document) : Except Fault LogSettings := do
  ofSection (← Configuration.part (if d.isSet then d else .mapping []) "logging")

/-- The least rank that is kept. Without a level of its own a log keeps warnings. -/
def threshold (s : LogSettings) : Int := if s.level = 0 then 30 else s.level

def keeps (s : LogSettings) (e : LogEntry) : Bool := s.threshold ≤ e.rank

def kept (s : LogSettings) (source : String) (entries : List LogEntry) : List LogEntry :=
  (.created source :: entries).filter s.keeps

end LogSettings

end LaneRoute
