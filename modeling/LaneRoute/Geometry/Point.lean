import LaneRoute.Number.Scalar

/-!
# Points

Points of the plane, and vertices of bounds and centerlines, which also have an elevation.
-/

set_option autoImplicit false

namespace LaneRoute

structure Point (α : Type) where
  x : α
  y : α

structure Vertex (α : Type) where
  x : α
  y : α
  z : α

namespace Point

open Scalar

variable {α : Type} [Scalar α]

def isFinite (p : Point α) : Bool := Scalar.isFinite p.x && Scalar.isFinite p.y

def agrees (p q : Point α) : Bool := Scalar.agrees p.x q.x && Scalar.agrees p.y q.y

def distance (p q : Point α) : α :=
  sqrt ((p.x - q.x) * (p.x - q.x) + (p.y - q.y) * (p.y - q.y))

end Point

namespace Vertex

variable {α : Type} [Scalar α]

def flat (v : Vertex α) : Point α := ⟨v.x, v.y⟩

def add (v w : Vertex α) : Vertex α := ⟨v.x + w.x, v.y + w.y, v.z + w.z⟩

def sub (v w : Vertex α) : Vertex α := ⟨v.x - w.x, v.y - w.y, v.z - w.z⟩

def scale (t : α) (v : Vertex α) : Vertex α := ⟨t * v.x, t * v.y, t * v.z⟩

def midpoint (v w : Vertex α) : Vertex α :=
  ⟨(v.x + w.x) / Scalar.two, (v.y + w.y) / Scalar.two, (v.z + w.z) / Scalar.two⟩

end Vertex

end LaneRoute
