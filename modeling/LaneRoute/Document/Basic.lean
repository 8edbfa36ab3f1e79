import LaneRoute.Number.Calendar

/-!
# Documents

The values that maps and settings are written in: what a map file, a settings file or a
request holds before anything is known about lanes. Entries of a mapping keep the order in
which their keys first came.
-/

set_option autoImplicit false

namespace LaneRoute

inductive Document where
  | null
  | bool (b : Bool)
  | int (i : Int)
  | real (x : Float)
  | text (s : String)
  | date (d : Date)
  | moment (m : Moment)
  | list (items : List Document)
  | mapping (entries : List (Document × Document))
deriving Inhabited

namespace Document

/-- Whether a value counts as set: nothing, zero and what is empty do not. -/
def isSet : Document → Bool
  | .null => false
  | .bool b => b
  | .int i => i ≠ 0
  | .real x => x != 0
  | .text s => s ≠ ""
  | .date _ => true
  | .moment _ => true
  | .list items => !items.isEmpty
  | .mapping entries => !entries.isEmpty

def isText (s : String) : Document → Bool
  | .text t => t = s
  | _ => false

def lookup? (key : String) (entries : List (Document × Document)) : Option Document :=
  (entries.find? fun e => e.1.isText key).map Prod.snd

/-- The value under a text key; only mappings have one. -/
def get? (key : String) : Document → Option Document
  | .mapping entries => lookup? key entries
  | _ => none

def put (key : String) (value : Document) : List (String × Document) → List (String × Document)
  | [] => [(key, value)]
  | (k, v) :: rest => if k = key then (k, value) :: rest else (k, v) :: put key value rest

end Document

/-- A yes-or-no mark of a map. Only whether it is set matters; it is shown as it was written. -/
structure Flag where
  written : Document

namespace Flag

def isSet (f : Flag) : Bool := f.written.isSet

def ofBool (b : Bool) : Flag := ⟨.bool b⟩

@[simp] theorem isSet_ofBool (b : Bool) : (ofBool b).isSet = b := rfl

end Flag

end LaneRoute
