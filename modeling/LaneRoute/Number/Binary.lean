/-!
# Exact values of doubles

A finite double is an integer times a power of two. Everything that has to be exact about
doubles (signs of determinants, decimal texts, remainders) starts from this reading.
-/

set_option autoImplicit false

namespace LaneRoute.Binary

structure Parts where
  significand : Nat
  exponent : Int

def isNegative (x : Float) : Bool := x.toBits.toNat / Nat.pow 2 63 = 1

/-- The magnitude of a finite double; infinities and what is no number have none. -/
def parts? (x : Float) : Option Parts :=
  let bits := x.toBits.toNat
  let fraction : Nat := bits % Nat.pow 2 52
  let scale : Nat := bits / Nat.pow 2 52 % Nat.pow 2 11
  if scale = 2047 then none
  else if scale = 0 then some ⟨fraction, -1074⟩
  else some ⟨Nat.pow 2 52 + fraction, (scale : Int) - 1075⟩

def Parts.value (p : Parts) : Rat :=
  if 0 ≤ p.exponent then ((p.significand * Nat.pow 2 p.exponent.toNat : Nat) : Rat)
  else mkRat p.significand (Nat.pow 2 (-p.exponent).toNat)

def rational? (x : Float) : Option Rat :=
  (parts? x).map fun p => if isNegative x then -p.value else p.value

def rational (x : Float) : Rat := (rational? x).getD 0

/-- The double nearest to a quotient of naturals. The quotient is cut to 64 bits or more, and
an odd last bit stands for what was cut, so that the conversion rounds the exact value. -/
def nearestQuotient (num den : Nat) : Float :=
  let shift : Int := 64 + (den.log2 : Int) - num.log2
  let num := if 0 ≤ shift then num * Nat.pow 2 shift.toNat else num
  let den := if 0 ≤ shift then den else den * Nat.pow 2 (-shift).toNat
  let cut := num / den
  let kept := if num % den = 0 ∨ cut % 2 = 1 then cut else cut + 1
  (Float.ofNat kept).scaleB (-shift)

def nearest (q : Rat) : Float :=
  let size := nearestQuotient q.num.natAbs q.den
  if q.num < 0 then -size else size

end LaneRoute.Binary
