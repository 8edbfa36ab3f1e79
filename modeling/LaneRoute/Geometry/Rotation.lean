import LaneRoute.Geometry.Angle

/-!
# Rotations in space

Unit quaternions with the scalar part last. The heading of a rotation is its first angle
when it is taken apart into turns about the fixed axes up, left and ahead, in this order.
-/

set_option autoImplicit false

namespace LaneRoute

structure Quaternion (α : Type) where
  x : α
  y : α
  z : α
  w : α

namespace Quaternion

open Scalar

variable {α : Type} [Scalar α]

def ofHeading (yaw : α) : Quaternion α := ⟨0, 0, sin (yaw / two), cos (yaw / two)⟩

/-- The rotation scaled to length one; a zero quaternion has none. -/
def unit? (q : Quaternion α) : Option (Quaternion α) :=
  let norm := sqrt (q.x * q.x + q.y * q.y + q.z * q.z + q.w * q.w)
  if agrees norm 0 then none else some ⟨q.x / norm, q.y / norm, q.z / norm, q.w / norm⟩

def merging : α := 1 / ofCount 10000000

def intoTurn (angle : α) : α :=
  if angle < -pi then angle + Angle.fullTurn
  else if pi < angle then angle - Angle.fullTurn else angle

/-- When the middle angle is at an end of its range only the sum or the difference of the
outer angles is determined; all of it is then given to the heading. -/
def headingOfUnit (q : Quaternion α) : α :=
  let sum := atan2 (q.z - q.x) (q.w - q.y)
  let difference := atan2 (-q.z - q.x) (q.y + q.w)
  let middle := two * atan2 (hypot (q.y + q.w) (-q.z - q.x)) (hypot (q.w - q.y) (q.z - q.x))
  if magnitude middle ≤ merging then intoTurn (two * sum)
  else if magnitude (middle - pi) ≤ merging then intoTurn (-(two * difference))
  else intoTurn (sum - difference)

def heading? (q : Quaternion α) : Option α := q.unit?.map headingOfUnit

end Quaternion

end LaneRoute
