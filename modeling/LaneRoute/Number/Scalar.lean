/-!
# Scalars

The arithmetic that lane geometry needs, as one interface. Machine doubles and the real
numbers are both instances, so a rule about lanes is written once: it runs on doubles and
is stated in exact arithmetic. Comparisons decide, and a value that is not a number
compares with nothing, itself included.
-/

set_option autoImplicit false

namespace LaneRoute

class Scalar (α : Type) extends Zero α, One α, Add α, Sub α, Mul α, Div α, Neg α, LT α, LE α where
  ltDecidable : DecidableLT α
  leDecidable : DecidableLE α
  ofCount : Nat → α
  pi : α
  /-- The distance below which a point counts as lying on a boundary. -/
  epsilon : α
  /-- The distance between things that cannot be measured. -/
  unreachable : α
  /-- Whether a value is a number below every infinite one. -/
  isBounded : α → Bool
  /-- Whether so many things can be held at once. -/
  isCountable : α → Bool
  sqrt : α → α
  hypot : α → α → α
  sin : α → α
  cos : α → α
  /-- The heading of the planar vector with the first coordinate up and the second ahead. -/
  atan2 : α → α → α
  /-- The remainder of a division whose quotient is cut toward zero. -/
  remainder : α → α → α
  /-- The least integer that is not below a finite value. -/
  ceiling : α → Int

namespace Scalar

variable {α : Type} [Scalar α]

instance : DecidableLT α := ltDecidable
instance : DecidableLE α := leDecidable

def two : α := 1 + 1

def isNumber (x : α) : Bool := x ≤ x

def isFinite (x : α) : Bool := isBounded x && isBounded (-x)

/-- Equality as arithmetic sees it: the two zeros agree, and what is no number equals nothing. -/
def agrees (x y : α) : Bool := x ≤ y && y ≤ x

def magnitude (x : α) : α := if x < 0 then -x else x

def toUnit (x : α) : α := if x < 0 then 0 else if 1 < x then 1 else x

def precedes (x y : α) (tie : Bool) : Bool := if agrees x y then tie else x < y

end Scalar

end LaneRoute
