import LaneRoute.Document.Basic
import LaneRoute.Yaml.Fault

/-!
# Dates and times in a text

A date has four digits for the year and two each for month and day. With a time of day after it
one digit is enough, and a fraction of the second and the distance from universal time may
follow. What is written like one of them but stands for no day or time makes no sense.
-/

set_option autoImplicit false

namespace LaneRoute.Yaml.Timestamp

def isDecimal (c : Char) : Bool := '0' ≤ c && c ≤ '9'

def natural (cs : List Char) : Nat := cs.foldl (fun n c => 10 * n + (c.toNat - '0'.toNat)) 0

def digits? (least greatest : Nat) (cs : List Char) : Option (Nat × List Char) :=
  let run := (cs.take greatest).takeWhile isDecimal
  if run.length < least then none else some (natural run, cs.drop run.length)

def mark? (c : Char) : List Char → Option (List Char)
  | d :: rest => if c = d then some rest else none
  | [] => none

def isSpace (c : Char) : Bool := c = ' ' || c = '\t'

def separator? : List Char → Option (List Char)
  | c :: rest =>
    if c = 'T' || c = 't' then some rest
    else if isSpace c then some (rest.dropWhile isSpace)
    else none
  | [] => none

def date? (least : Nat) (cs : List Char) : Option (Date × List Char) := do
  let (year, cs) ← digits? 4 4 cs
  let (month, cs) ← digits? least 2 (← mark? '-' cs)
  let (day, cs) ← digits? least 2 (← mark? '-' cs)
  return (⟨year, month, day⟩, cs)

/-- A fraction in microseconds; further digits are cut. -/
def fraction (cs : List Char) : Nat × List Char :=
  match cs with
  | '.' :: rest =>
    let run := (rest.takeWhile isDecimal)
    (natural ((run ++ List.replicate 6 '0').take 6), rest.drop run.length)
  | _ => (0, cs)

def offsetSize? (cs : List Char) : Option (Nat × List Char) := do
  let (hours, cs) ← digits? 1 2 cs
  match cs with
  | ':' :: rest =>
    let (minutes, cs) ← digits? 2 2 rest
    return ((hours * 60 + minutes) * 60, cs)
  | _ => return (hours * 3600, cs)

def offset? (cs : List Char) : Option (Option Int) :=
  match cs with
  | [] => some none
  | _ =>
    match cs.dropWhile isSpace with
    | ['Z'] => some (some 0)
    | c :: rest =>
      match offsetSize? rest with
      | some (size, []) =>
        if c = '+' then some (some size) else if c = '-' then some (some (-size)) else none
      | _ => none
    | [] => none

def moment? (cs : List Char) : Option Moment := do
  let (date, cs) ← date? 1 cs
  let (hour, cs) ← digits? 1 2 (← separator? cs)
  let (minute, cs) ← digits? 2 2 (← mark? ':' cs)
  let (second, cs) ← digits? 2 2 (← mark? ':' cs)
  let (microsecond, cs) := fraction cs
  return ⟨date, hour, minute, second, microsecond, ← offset? cs⟩

def value? (cs : List Char) : Option (Reading Document) :=
  match date? 2 cs with
  | some (d, []) => some (if d.isValid then .ok (.date d) else .error .badValue)
  | _ => (moment? cs).map fun m => if m.isValid then .ok (.moment m) else .error .badValue

end LaneRoute.Yaml.Timestamp
