import LaneRoute.Document.Basic
import LaneRoute.Number.Shortest
import LaneRoute.Text.Hidden

/-!
# Documents as text

The notation in which messages quote a value. Texts stand in single quotes unless that
would need a backslash and double quotes would not.
-/

set_option autoImplicit false

namespace LaneRoute.Document

def hexPadded (width n : Nat) : String :=
  let text := String.ofList (Nat.toDigits 16 n)
  "".pushn '0' (width - text.length) ++ text

def escaped (quote c : Char) : String :=
  if c = quote ∨ c = '\\' then "\\" ++ c.toString
  else if c = '\n' then "\\n"
  else if c = '\r' then "\\r"
  else if c = '\t' then "\\t"
  else if Text.isHidden c then
    if c.toNat < 0x100 then "\\x" ++ hexPadded 2 c.toNat
    else if c.toNat < 0x10000 then "\\u" ++ hexPadded 4 c.toNat
    else "\\U" ++ hexPadded 8 c.toNat
  else c.toString

def quoted (s : String) : String :=
  let cs := s.toList
  let quote := if cs.contains '\'' && !cs.contains '"' then '"' else '\''
  quote.toString ++ String.join (cs.map (escaped quote)) ++ quote.toString

mutual

def display : Document → String
  | .null => "None"
  | .bool b => if b then "True" else "False"
  | .int i => Decimal.integer i
  | .real x => Shortest.text x
  | .text s => quoted s
  | .date d => d.display
  | .moment m => m.display
  | .list items => "[" ++ ", ".intercalate (displayAll items) ++ "]"
  | .mapping entries => "\x7b" ++ ", ".intercalate (displayEntries entries) ++ "\x7d"

def displayAll : List Document → List String
  | [] => []
  | d :: rest => display d :: displayAll rest

def displayEntries : List (Document × Document) → List String
  | [] => []
  | (k, v) :: rest => (display k ++ ": " ++ display v) :: displayEntries rest

end

/-- The text of a value that stands alone: a text is itself. -/
def bare : Document → String
  | .text s => s
  | .date d => d.text
  | .moment m => m.text
  | d => display d

def displayIds (ids : List Int) : String := "[" ++ ", ".intercalate (ids.map Decimal.integer) ++ "]"

end LaneRoute.Document
