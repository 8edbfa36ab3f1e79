import LaneRoute.Proofs.Number.Exact
import LaneRoute.Geometry.Region
import Mathlib.Data.Rat.Floor

/-!
# Rationals as scalars

A second runnable instance. Sums, products and comparisons are exact, a root is exact when it
is rational, and headings are exact along the axes; this is all that maps drawn on a grid use,
so that planning on such maps can be computed inside a proof.
-/

set_option autoImplicit false

namespace LaneRoute.Rational

def naturalRoot : Nat → Nat → Nat
  | 0, _ => 0
  | digits + 1, n =>
    let r := 2 * naturalRoot digits (n / 4)
    if (r + 1) * (r + 1) ≤ n then r + 1 else r

def root (q : Rat) : Rat :=
  let n := q.num.toNat * q.den
  naturalRoot (n.log2 / 2 + 1) n / q.den

def halfTurn : Rat := 355 / 113

def quarterTurn : Rat := halfTurn / 2

/-- The heading of a vector, measured along the diamond around the origin. -/
def heading (y x : Rat) : Rat :=
  let size := |x| + |y|
  if size = 0 then 0
  else
    let share := y / size
    quarterTurn * (if 0 ≤ x then share else if 0 ≤ y then 2 - share else -2 - share)

/-- The cosine by quarters; inside a quarter it is that of a point of the unit circle. -/
def cosine (angle : Rat) : Rat :=
  let quarters := angle / quarterTurn
  let whole := quarters.floor
  let u := quarters - whole
  let ahead := (1 - u * u) / (1 + u * u)
  let aside := 2 * u / (1 + u * u)
  match whole % 4 with
  | 0 => ahead
  | 1 => -aside
  | 2 => -ahead
  | _ => aside

instance : Scalar Rat where
  ltDecidable := inferInstance
  leDecidable := inferInstance
  ofCount n := n
  pi := halfTurn
  epsilon := 1 / 2 ^ 52
  unreachable := 2 ^ 1024
  isBounded _ := true
  isCountable _ := true
  sqrt := root
  hypot x y := root (x * x + y * y)
  sin angle := cosine (angle - quarterTurn)
  cos := cosine
  atan2 := heading
  remainder x y := x - y * ((x / y).num.tdiv (x / y).den : Int)
  ceiling := Rat.ceil

instance : ExactSums Rat where
  add_assoc := add_assoc
  add_comm := add_comm
  zero_add := zero_add
  le_refl := le_refl
  le_trans _ _ _ := le_trans
  le_antisymm _ _ := le_antisymm
  le_total := le_total
  lt_iff _ _ := lt_iff_le_not_ge
  add_le_add_left _ _ h z := add_le_add_left h z
  bounded _ := rfl

theorem nsmulRec_eq_mul (n : Nat) (x : Rat) :
    @nsmulRec Rat Scalar.toZero Scalar.toAdd n x = n * x :=
  (nsmulRec_eq_nsmul n x).trans (nsmul_eq_mul n x)

instance : ExactQuotients Rat where
  le_ceiling x y n hy h := by
    have hmul : n * y ≤ x := (nsmulRec_eq_mul n y).symm.trans_le h
    have hdiv : (n : Rat) ≤ x / y := (le_div_iff₀ hy).2 hmul
    have hceil : ((n : Int) : Rat) ≤ (Rat.ceil (x / y) : Rat) := by
      rw [Int.cast_natCast]
      exact hdiv.trans Rat.le_ceil
    exact Int.cast_le.1 hceil

theorem halfTurn_nonneg : 0 ≤ halfTurn := by decide +kernel

instance : ExactSigns Rat where
  mul_nonneg _ _ := mul_nonneg
  neg_nonneg _ h := neg_nonneg.2 h.le
  sqrt_nonneg _ := div_nonneg (Nat.cast_nonneg _) (Nat.cast_nonneg _)
  share_nonneg _ := div_nonneg halfTurn_nonneg (Nat.cast_nonneg _)
  unreachable_nonneg := pow_nonneg (by decide) 1024

instance : ExactDegrees Rat where
  ofDegrees_le _ _ h :=
    div_le_div_of_nonneg_right (mul_le_mul_of_nonneg_right h halfTurn_nonneg) (Nat.cast_nonneg _)

def determinant (a b p : Point Rat) : Rat :=
  (b.x - a.x) * (p.y - a.y) - (b.y - a.y) * (p.x - a.x)

def meet? (a b c d : Point Rat) : Option (Point Rat) :=
  let det := (b.x - a.x) * (d.y - c.y) - (b.y - a.y) * (d.x - c.x)
  if det = 0 then none
  else
    let t := ((c.x - a.x) * (d.y - c.y) - (c.y - a.y) * (d.x - c.x)) / det
    some ⟨a.x + t * (b.x - a.x), a.y + t * (b.y - a.y)⟩

instance : Sided Rat where
  side a b p := (determinant a b p).num.sign
  meet? := meet?

def parts : Region Rat → List (Ring Rat)
  | .empty => []
  | .single ring => [ring]
  | .union rings => rings

/-- Areas are compared by the rectangles around them, part by part. For upright rectangles a
footprint inside one part is inside the region. -/
instance : Planar Rat where
  isSound _ := true
  hasExtent ring := ring.box.minX < ring.box.maxX && ring.box.minY < ring.box.maxY
  covers region ring := .ok ((parts region).any fun part => part.box.holdsBox ring.box)
  enclosed := id

end LaneRoute.Rational
