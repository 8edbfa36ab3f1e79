import LaneRoute.Geometry.Ring

/-!
# Broken boundaries

Whether an area lies inside another when places on one of the boundaries are unknown. Both are
followed clockwise, in runs of pieces that lead to one quarter of the plane. Runs whose ends lie
far from the other boundary are passed over, even if they are broken; a broken run near it
leaves the question without an answer.
-/

set_option autoImplicit false

namespace LaneRoute.Broken

open Scalar Sided

variable {α : Type}

abbrev Run (α : Type) := List (Point α × Point α)

section Scalars

variable [Scalar α]

/-- Whether a piece leads right and whether it leads up. A piece to an unknown place leads left
and down. -/
def quarter (e : Point α × Point α) : Bool × Bool :=
  (decide (0 ≤ e.2.x - e.1.x), decide (0 ≤ e.2.y - e.1.y))

def runs (ring : Ring α) : List (Run α) :=
  (ring.edges.filter fun e => !e.1.agrees e.2).splitBy fun e f => quarter e == quarter f

def ends? (run : Run α) : Option (Ring.Box α) := do
  return (Ring.Box.ofPoint (← run.head?).1).extend (← run.getLast?).2

def areNear (r s : Run α) : Bool :=
  match ends? r, ends? s with
  | some b, some c => b.meets c
  | _, _ => false

def isWhole (r : Run α) : Bool := r.all fun e => e.1.isFinite && e.2.isFinite

def rise? (high : Point α) : List (Point α) → Option (Point α × Point α × List (Point α))
  | p :: q :: rest =>
    if p.y < q.y && high.y ≤ q.y then rise? q (q :: rest) <|> some (p, q, rest)
    else rise? high (q :: rest)
  | _ => none

end Scalars

variable [Sided α]

/-- Whether a boundary runs counterclockwise, told at its highest vertex. A boundary without a
rise does not. -/
def isCounterclockwise (ring : Ring α) : Except Fault Bool :=
  match ring.vertices.head?.bind fun p => rise? p ring.vertices with
  | none => .ok false
  | some (low, high, rest) =>
    let after := rest ++ ring.vertices.tail
    let level := after.takeWhile fun p => agrees p.y high.y
    match level.getLast?, (after.drop level.length).head? with
    | some p, _ => .ok (p.x < high.x)
    | none, some next =>
      if low.isFinite && high.isFinite && next.isFinite then .ok (0 < side low high next)
      else .error .badShape
    | none, none => .ok false

def clockwise (ring : Ring α) : Except Fault (Ring α) := do
  return if ← isCounterclockwise ring then ⟨ring.vertices.reverse⟩ else ring

def crosses (e f : Point α × Point α) : Bool :=
  side e.1 e.2 f.1 * side e.1 e.2 f.2 < 0 && side f.1 f.2 e.1 * side f.1 f.2 e.2 < 0

/-- Follow runs as long as none of them crosses a border. -/
def staysInside (border : List (Run α)) : List (Run α) → Except Fault Bool
  | [] => .ok true
  | run :: rest =>
    let near := border.filter (areNear run)
    if near.any fun b => !isWhole run || !isWhole b then .error .badShape
    else if near.any fun b => b.any fun f => run.any fun e => crosses e f then .ok false
    else staysInside border rest

def liesIn (outer ring : Ring α) : Except Fault Bool :=
  if !outer.box.holdsBox ring.box || !ring.vertices.head?.any outer.contains then .ok false
  else do
    let inner ← clockwise ring
    let border ← clockwise outer
    staysInside (runs border) (runs inner)

end LaneRoute.Broken
