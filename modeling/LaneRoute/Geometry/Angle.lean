import LaneRoute.Number.Scalar

/-!
# Angles

Headings are radians. The wrapped form of an angle lies between minus half a turn, included,
and half a turn, and differs from the angle by whole turns.
-/

set_option autoImplicit false

namespace LaneRoute.Angle

open Scalar

variable {α : Type} [Scalar α]

def ofDegrees (x : α) : α := x * pi / ofCount 180

def fullTurn : α := two * pi

def wrapped (angle : α) : α :=
  let rest := remainder (angle + pi) fullTurn
  (if rest < 0 then rest + fullTurn else rest) - pi

def between (a b : α) : α := magnitude (wrapped (a - b))

end LaneRoute.Angle
