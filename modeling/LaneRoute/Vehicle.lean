import LaneRoute.Geometry.Ring
import LaneRoute.Pose

/-!
# Vehicles

The measures of a vehicle around the point between its rear wheels, from which distances
ahead and to the left are counted, and the outline that they make on the ground.
-/

set_option autoImplicit false

namespace LaneRoute

structure Vehicle (α : Type) where
  wheelBase : α
  wheelTread : α
  frontOverhang : α
  rearOverhang : α
  leftOverhang : α
  rightOverhang : α
  height : α

namespace Vehicle

open Scalar

variable {α : Type} [Scalar α]

def standard : Vehicle Float where
  wheelBase := 2.79
  wheelTread := 1.64
  frontOverhang := 1.0
  rearOverhang := 1.1
  leftOverhang := 0.128
  rightOverhang := 0.128
  height := 2.5

def length (v : Vehicle α) : α := v.frontOverhang + v.wheelBase + v.rearOverhang

def width (v : Vehicle α) : α := v.wheelTread + v.leftOverhang + v.rightOverhang

def front (v : Vehicle α) : α := v.frontOverhang + v.wheelBase

def rear (v : Vehicle α) : α := -v.rearOverhang

def leftmost (v : Vehicle α) : α := v.wheelTread / two + v.leftOverhang

def rightmost (v : Vehicle α) : α := -(v.wheelTread / two + v.rightOverhang)

/-- Half the surplus of the right overhang over the left one. -/
def lateralOffset (v : Vehicle α) : α := (v.rightOverhang - v.leftOverhang) / two

/-- The outline widened by a margin at both ends and one at both sides: front left, front
right, middle right, rear right, rear left, middle left and front left again. -/
def footprint (v : Vehicle α) (margin lateralMargin : α) : List (Point α) :=
  let front := v.front + margin
  let middle := v.wheelBase / two
  let rear := v.rear - margin
  let left := v.leftmost + lateralMargin
  let right := v.rightmost - lateralMargin
  [⟨front, left⟩, ⟨front, right⟩, ⟨middle, right⟩, ⟨rear, right⟩, ⟨rear, left⟩,
    ⟨middle, left⟩, ⟨front, left⟩]

end Vehicle

def Pose.place {α : Type} [Scalar α] (p : Pose α) (points : List (Point α)) : List (Point α) :=
  let c := Scalar.cos p.yaw
  let s := Scalar.sin p.yaw
  points.map fun q => ⟨q.x * c - q.y * s + p.x, q.x * s + q.y * c + p.y⟩

/-- A boundary around a pose. There is none for an unbounded heading. -/
def Pose.placeRing {α : Type} [Scalar α] (p : Pose α) (points : List (Point α)) :
    Except Fault (Ring α) :=
  if Scalar.isNumber p.yaw && !Scalar.isFinite p.yaw then .error .badValue
  else Ring.ofPoints (p.place points)

end LaneRoute
