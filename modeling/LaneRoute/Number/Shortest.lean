import LaneRoute.Number.Decimal

/-!
# Shortest decimal texts of doubles

The fewest digits that read back as the same double, and of those the nearest. A power of ten
from the sixteenth on, or below the fourth place, moves to an exponent.
-/

set_option autoImplicit false

namespace LaneRoute.Shortest

structure Interval where
  lower : Rat
  upper : Rat
  closed : Bool

def Interval.holds (i : Interval) (q : Rat) : Bool :=
  if i.closed then i.lower ≤ q && q ≤ i.upper else i.lower < q && q < i.upper

/-- Below the least significand of a binade the doubles lie twice as dense. -/
def interval (p : Binary.Parts) : Interval where
  lower :=
    if p.significand = Nat.pow 2 52 ∧ p.exponent ≠ -1074 then
      Binary.Parts.value ⟨4 * p.significand - 1, p.exponent - 2⟩
    else Binary.Parts.value ⟨2 * p.significand - 1, p.exponent - 1⟩
  upper := Binary.Parts.value ⟨2 * p.significand + 1, p.exponent - 1⟩
  closed := p.significand % 2 = 0

def powerOfTen (k : Int) : Rat :=
  if 0 ≤ k then (Nat.pow 10 k.toNat : Rat) else mkRat 1 (Nat.pow 10 (-k).toNat)

def magnitude (q : Rat) : Int :=
  if 1 ≤ q then ((Decimal.digits (q.num.natAbs / q.den)).length : Int) - 1
  else
    let guess : Int := (Decimal.digits (q.den / q.num.natAbs)).length
    if q < powerOfTen (1 - guess) then -guess else 1 - guess

def candidates (i : Interval) (q unit : Rat) : List Nat :=
  let down := (q / unit).floor.toNat
  let near := if q - down * unit ≤ (down + 1 : Nat) * unit - q then [down, down + 1]
    else [down + 1, down]
  near.filter fun n => i.holds (n * unit)

def digits (i : Interval) (q : Rat) : Nat × Int :=
  let first := magnitude q
  let grids := (List.range 17).filterMap fun (n : Nat) =>
    let last := first - (n : Nat)
    (candidates i q (powerOfTen last)).head?.map fun units =>
      if units % 10 = 0 then (units / 10, last + 1) else (units, last)
  grids.head?.getD (0, 0)

def layOut (cs : String) (first : Int) : String :=
  if -4 ≤ first ∧ first < 16 then
    if first < 0 then "0." ++ "".pushn '0' (-first - 1).toNat ++ cs
    else
      let whole := first.toNat + 1
      let shown := if cs.length ≤ whole then cs.pushn '0' (whole - cs.length + 1) else cs
      String.ofList (shown.toList.take whole) ++ "." ++ String.ofList (shown.toList.drop whole)
  else
    let tail := String.ofList (cs.toList.drop 1)
    String.ofList (cs.toList.take 1) ++ (if tail = "" then "" else "." ++ tail) ++ "e"
      ++ (if first < 0 then "-" else "+") ++ Decimal.padded 2 first.natAbs

def text (x : Float) : String :=
  match Binary.parts? x with
  | none => Decimal.notFinite x
  | some p =>
    if p.significand = 0 then Decimal.signed x "0.0"
    else
      let (units, last) := digits (interval p) p.value
      let cs := Decimal.digits units
      Decimal.signed x (layOut cs (last + cs.length - 1))

end LaneRoute.Shortest
