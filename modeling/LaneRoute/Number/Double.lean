import LaneRoute.Number.Binary
import LaneRoute.Number.Scalar

/-!
# Doubles as scalars

The runnable instance: arithmetic rounds to nearest, the length of a planar vector neither
overflows nor loses its last digits on the way, and remainders are exact.
-/

set_option autoImplicit false

namespace LaneRoute.Double

def infinity : Float := 1 / 0

def powerOfTwo (n : Nat) : Float := Float.ofNat (Nat.pow 2 n)

/-- The greatest length whose square is safe from overflow. -/
def large : Float := powerOfTwo 511

/-- The least length whose square keeps its digits. -/
def small : Float := 1 / powerOfTwo 459

/-- A length that is at most this part of another one adds nothing to its square. -/
def negligible : Float := 1 / powerOfTwo 54

/-- What lengths are scaled by where squares are not safe. -/
def spread : Float := powerOfTwo 600

/-- The length of a vector whose coordinates need no scaling: the root of the sum of squares,
corrected by the error that the root leaves. -/
def hypotCore (long short : Float) : Float :=
  let h := (long * long + short * short).sqrt
  if h ≤ 2 * short then
    let δ := h - short
    let t₁ := long * (2 * δ - long)
    let t₂ := (δ - 2 * (long - short)) * δ
    h - (t₁ + t₂) / (2 * h)
  else
    let δ := h - long
    let t₁ := 2 * δ * (long - 2 * short)
    let t₂ := (4 * δ - short) * short + δ * δ
    h - (t₁ + t₂) / (2 * h)

/-- The length of a planar vector; an infinite coordinate outweighs one that is no number. -/
def hypot (x y : Float) : Float :=
  let x := x.abs
  let y := y.abs
  if x.isInf || y.isInf then infinity
  else if x.isNaN || y.isNaN then 0 / 0
  else
    let long := if x < y then y else x
    let short := if x < y then x else y
    if short ≤ long * negligible then long + short
    else if large < long then hypotCore (long / spread) (short / spread) * spread
    else if short < small then hypotCore (long * spread) (short * spread) / spread
    else hypotCore long short

/-- The remainder of a division whose quotient is cut toward zero, with the sign of the
dividend. -/
def remainder (x y : Float) : Float :=
  match Binary.parts? x, Binary.parts? y with
  | some p, some q =>
    if q.significand = 0 then 0 / 0
    else
      let least := min p.exponent q.exponent
      let scaled (r : Binary.Parts) : Nat := r.significand * Nat.pow 2 (r.exponent - least).toNat
      let size := (Float.ofNat (scaled p % scaled q)).scaleB least
      if Binary.isNegative x then -size else size
  | some _, none => if y.isNaN then y else x
  | none, _ => 0 / 0

def ceiling (x : Float) : Int := (Binary.rational x).ceil

instance : Scalar Float where
  ltDecidable := inferInstance
  leDecidable := inferInstance
  ofCount := Float.ofNat
  pi := 3.141592653589793
  epsilon := 1 / powerOfTwo 52
  unreachable := infinity
  isBounded x := x < infinity
  -- no more values of eight bytes each can be held in one list
  isCountable x := x < powerOfTwo 60
  sqrt := Float.sqrt
  hypot := hypot
  sin := Float.sin
  cos := Float.cos
  atan2 := Float.atan2
  remainder := remainder
  ceiling := ceiling

end LaneRoute.Double
