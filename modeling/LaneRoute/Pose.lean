import LaneRoute.Geometry.Point
import LaneRoute.Geometry.Rotation
import LaneRoute.Number.Decimal
import LaneRoute.Number.Double

/-!
# Poses

A position with a heading, in radians and not wrapped.
-/

set_option autoImplicit false

namespace LaneRoute

structure Pose (α : Type) where
  x : α
  y : α
  z : α
  yaw : α

namespace Pose

variable {α : Type} [Scalar α]

def point (p : Pose α) : Point α := ⟨p.x, p.y⟩

def agrees (p q : Pose α) : Bool :=
  Scalar.agrees p.x q.x && Scalar.agrees p.y q.y && Scalar.agrees p.z q.z
    && Scalar.agrees p.yaw q.yaw

def rotation (p : Pose α) : Quaternion α := Quaternion.ofHeading p.yaw

def ofRotation? (x y z : α) (q : Quaternion α) : Option (Pose α) :=
  q.heading?.map fun yaw => ⟨x, y, z, yaw⟩

def text (p : Pose Float) : String :=
  "Pose(x=" ++ Decimal.fixed 3 p.x ++ ", y=" ++ Decimal.fixed 3 p.y ++ ", z="
    ++ Decimal.fixed 3 p.z ++ ", yaw=" ++ Decimal.fixed 3 p.yaw ++ ")"

end Pose

end LaneRoute
