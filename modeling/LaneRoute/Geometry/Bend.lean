import LaneRoute.Geometry.Ring

/-!
# Bends

How the outline of a strip passes a bend of its line. Each side of the outline runs beside the
line at half the width. Outside of a bend the two outlines are prolonged until they meet, but
not too far; inside they are cut where they meet, or joined by way of the bend.
-/

set_option autoImplicit false

namespace LaneRoute.Bend

open Scalar Sided

variable {α : Type}

abbrev Piece (α : Type) := Point α × Point α

section Scalars

variable [Scalar α]

def beside (shift : α) (a b : Point α) : Piece α :=
  let dx := b.x - a.x
  let dy := b.y - a.y
  let size := sqrt (dx * dx + dy * dy)
  let ahead := shift * dx / size
  let aside := shift * dy / size
  (⟨a.x - aside, a.y + ahead⟩, ⟨b.x - aside, b.y + ahead⟩)

def around (s : Piece α) : Ring.Box α := (Ring.Box.ofPoint s.1).extend s.2

def midpoint (p q : Point α) : Point α := ⟨(p.x + q.x) / two, (p.y + q.y) / two⟩

/-- Outlines that end closer together than this part of half the width need no corner outside
of a bend. -/
def flatness : α := ofCount 5 / ofCount 100

/-- Outlines that end closer together than this part of half the width need no detour inside
of a bend. -/
def closeness : α := 1 / ofCount 1000

def reach : α := ofCount 5

/-- The corner outside of a bend cut off at its reach, across the way from the bend to where
the outlines would meet. -/
def blunted (half : α) (bend : Point α) (s t : Piece α) : List (Point α) :=
  let n : Point α := ⟨s.2.x - bend.x, s.2.y - bend.y⟩
  let m : Point α := ⟨t.1.x - bend.x, t.1.y - bend.y⟩
  let out : Point α := ⟨n.x + m.x, n.y + m.y⟩
  let size := sqrt (out.x * out.x + out.y * out.y)
  let rise := (n.y * out.x - n.x * out.y) / size
  let along := (reach * half - size / two) / rise
  [⟨s.2.x + along * n.y, s.2.y - along * n.x⟩, ⟨t.1.x - along * m.y, t.1.y + along * m.x⟩]

def detour (half : α) (bend : Point α) (s t : Piece α) : List (Point α) :=
  if Point.distance s.2 t.1 < half * closeness then [s.2]
  else [s.2, midpoint s.2 bend, midpoint t.1 bend, t.1]

def reverses (a b c : Point α) : Bool := (around (a, b)).holds c || (around (b, c)).holds a

end Scalars

variable [Sided α]

def shared? (s t : Piece α) : Option (Point α) :=
  let first := side s.1 s.2 t.1
  let last := side s.1 s.2 t.2
  let first' := side t.1 t.2 s.1
  let last' := side t.1 t.2 s.2
  if !(around s).meets (around t) || 0 < first * last || 0 < first' * last' then none
  else if first = 0 && last = 0 then
    [t.1, t.2].find? (around s).holds <|> [s.1, s.2].find? (around t).holds
  else if first = 0 then some t.1
  else if last = 0 then some t.2
  else if first' = 0 then some s.1
  else if last' = 0 then some s.2
  else meet? s.1 s.2 t.1 t.2

def corner (half : α) (a bend c : Point α) (s t : Piece α) : List (Point α) :=
  if Point.distance s.2 t.1 < half * flatness then
    [if Point.distance bend c < Point.distance a bend then s.2 else t.1]
  else
    match meet? s.1 s.2 t.1 t.2 with
    | some tip => if Point.distance tip bend ≤ reach * half then [tip] else blunted half bend s t
    | none => blunted half bend s t

def inset (half : α) (bend : Point α) (s t : Piece α) : List (Point α) :=
  match shared? s t with
  | some p => [p]
  | none => detour half bend s t

/-- The outline beside the middle one of three points, on the left of a line or for a negative
shift on its right. The outline around a ring starts at its first bend without the end of the
piece before it. -/
def outline (shift : α) (starts : Bool) (a b c : Point α) : List (Point α) :=
  let half := magnitude shift
  let s := beside shift a b
  let t := beside shift b c
  let turn := side a b c
  if turn = 0 then
    if !reverses a b c then [] else if starts then [t.1] else [s.2, t.1]
  else if (turn < 0) = (0 < shift) then corner half a b c s t
  else inset half b s t

end LaneRoute.Bend
