import LaneRoute.Fault
import LaneRoute.Number.Literal

/-!
# Numbers in documents

Taking a value for a number. Marks count as zero and one, texts are read as numerals, and
nothing else that is not a number becomes one.
-/

set_option autoImplicit false

namespace LaneRoute.Document

/-- The double nearest to an integer, unless it is beyond all of them. -/
def realOfInt (i : Int) : Except Fault Float :=
  let x := Binary.nearest i
  if x.isInf then .error .tooLarge else .ok x

def toReal : Document → Except Fault Float
  | bool b => .ok (if b then 1 else 0)
  | int i => realOfInt i
  | real x => .ok x
  | text s =>
    match Literal.real? s with
    | some x => .ok x
    | none => .error .badValue
  | _ => .error .wrongKind

/-- The integer part of a number, or the integer that a text is a numeral of. -/
def toInt : Document → Except Fault Int
  | bool b => .ok (if b then 1 else 0)
  | int i => .ok i
  | real x =>
    if x.isNaN then .error .badValue
    else if x.isInf then .error .tooLarge
    else
      let q := Binary.rational x
      .ok (if 0 ≤ q then q.floor else q.ceil)
  | text s =>
    match Literal.integer? s with
    | some i => .ok i
    | none => .error .badValue
  | _ => .error .wrongKind

end LaneRoute.Document
