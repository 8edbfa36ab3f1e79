import LaneRoute.Number.Binary

/-!
# Decimal texts of doubles

Texts with a fixed number of places and in scientific form, correctly rounded from the exact
value, a tie going to the even digit.
-/

set_option autoImplicit false

namespace LaneRoute.Decimal

/-- The natural nearest to a quotient; a tie goes to the even one. -/
def roundQuotient (num den : Nat) : Nat :=
  let down := num / den
  let rest := 2 * (num % den)
  if rest < den then down else if den < rest then down + 1 else down + down % 2

def digits (n : Nat) : String := String.ofList (Nat.toDigits 10 n)

def padded (width n : Nat) : String :=
  let text := digits n
  "".pushn '0' (width - text.length) ++ text

def integer (i : Int) : String := if i < 0 then "-" ++ digits i.natAbs else digits i.natAbs

def fixedMagnitude (places : Nat) (q : Rat) : String :=
  let units := roundQuotient (q.num.natAbs * Nat.pow 10 places) q.den
  digits (units / Nat.pow 10 places) ++ "." ++ padded places (units % Nat.pow 10 places)

def signed (x : Float) (text : String) : String :=
  if Binary.isNegative x then "-" ++ text else text

def notFinite (x : Float) : String :=
  if x.isNaN then "nan" else signed x "inf"

/-- A double with this many places after the point; the sign of a zero is kept. -/
def fixed (places : Nat) (x : Float) : String :=
  match Binary.parts? x with
  | none => notFinite x
  | some p => signed x (fixedMagnitude places p.value)

def scientificMagnitude (places : Nat) (q : Rat) : String :=
  let magnitude := (digits (q.num.natAbs / q.den)).length - 1
  let units := roundQuotient (q.num.natAbs * Nat.pow 10 places) (q.den * Nat.pow 10 magnitude)
  let carried := Nat.pow 10 (places + 1) ≤ units
  let units := if carried then units / 10 else units
  let magnitude := if carried then magnitude + 1 else magnitude
  digits (units / Nat.pow 10 places) ++ "." ++ padded places (units % Nat.pow 10 places)
    ++ "e+" ++ padded 2 magnitude

/-- Measurements below a million have six places and no negative zero; larger ones have one
digit before the point and eight after it. -/
def measure (x : Float) : String :=
  match Binary.parts? x with
  | none => notFinite x
  | some p =>
    if p.value < 1000000 then
      let text := fixedMagnitude 6 p.value
      if text = "0.000000" then text else signed x text
    else signed x (scientificMagnitude 8 p.value)

end LaneRoute.Decimal
