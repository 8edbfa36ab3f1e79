import LaneRoute.Proofs.Number.Exact
import LaneRoute.Geometry.Ring
import Mathlib.Analysis.SpecialFunctions.Complex.Arg

/-!
# Real numbers as scalars

The exact arithmetic in which roots exist and headings are angles. Nothing runs on it; it is
what distances in the plane are reasoned about in.
-/

set_option autoImplicit false

namespace LaneRoute.Exact

noncomputable def cut (x : ℝ) : ℤ := if 0 ≤ x then ⌊x⌋ else ⌈x⌉

noncomputable instance : Scalar ℝ where
  ltDecidable := Classical.decRel _
  leDecidable := Classical.decRel _
  ofCount n := n
  pi := Real.pi
  epsilon := 1 / 2 ^ 52
  unreachable := 2 ^ 1024
  isBounded _ := true
  isCountable _ := true
  sqrt := Real.sqrt
  hypot x y := Real.sqrt (x * x + y * y)
  sin := Real.sin
  cos := Real.cos
  atan2 y x := Complex.arg ⟨x, y⟩
  remainder x y := x - y * cut (x / y)
  ceiling x := ⌈x⌉

instance : ExactSums ℝ where
  add_assoc := add_assoc
  add_comm := add_comm
  zero_add := zero_add
  le_refl := le_refl
  le_trans _ _ _ := le_trans
  le_antisymm _ _ := le_antisymm
  le_total := le_total
  lt_iff _ _ := lt_iff_le_not_ge
  add_le_add_left _ _ h z := add_le_add_left h z
  bounded _ := rfl

instance : ExactSigns ℝ where
  mul_nonneg _ _ := mul_nonneg
  neg_nonneg _ h := neg_nonneg.2 h.le
  sqrt_nonneg _ := Real.sqrt_nonneg _
  share_nonneg _ := div_nonneg Real.pi_pos.le (Nat.cast_nonneg _)
  unreachable_nonneg := pow_nonneg zero_le_two 1024

noncomputable abbrev withHalfTurn (halfTurn : ℝ) : Scalar ℝ where
  __ := (inferInstance : Scalar ℝ)
  pi := halfTurn

theorem cut_neg (x : ℝ) : cut (-x) = -cut x := by
  rcases lt_trichotomy x 0 with h | rfl | h
  · rw [cut, cut, if_pos (neg_pos.2 h).le, if_neg (not_le.2 h), Int.floor_neg]
  · simp [cut]
  · rw [cut, cut, if_neg (not_le.2 (neg_neg_of_pos h)), if_pos h.le, Int.ceil_neg]

theorem exactRemainders_withHalfTurn (halfTurn : ℝ) :
    @ExactRemainders ℝ (withHalfTurn halfTurn) := by
  let _ := withHalfTurn halfTurn
  have hsums : @ExactSums ℝ (withHalfTurn halfTurn) :=
    { add_assoc := add_assoc, add_comm := add_comm, zero_add := zero_add, le_refl := le_refl,
      le_trans := fun _ _ _ => le_trans, le_antisymm := fun _ _ => le_antisymm,
      le_total := le_total, lt_iff := fun _ _ => lt_iff_le_not_ge,
      add_le_add_left := fun _ _ h z => add_le_add_left h z, bounded := fun _ => rfl }
  have hrest : ∀ x y : ℝ, 0 ≤ x → 0 < y → x - y * cut (x / y) = y * Int.fract (x / y) := by
    intro x y hx hy
    rw [cut, if_pos (div_nonneg hx hy.le), Int.fract, mul_sub, mul_div_cancel₀ x hy.ne']
  exact
    { hsums with
      neg_add_cancel := neg_add_cancel
      sub_eq_add_neg := sub_eq_add_neg
      two_mul := fun x => (congrArg (· * x) one_add_one_eq_two).trans (two_mul x)
      remainder_mem := fun x y hx hy => by
        change 0 ≤ x - y * cut (x / y) ∧ x - y * cut (x / y) < y
        rw [hrest x y hx hy]
        exact ⟨mul_nonneg hy.le (Int.fract_nonneg _),
          mul_lt_of_lt_one_right hy (Int.fract_lt_one _)⟩
      exists_remainder := fun x y hx hy => by
        refine ⟨⌊x / y⌋₊, ?_⟩
        have htimes : (⌊x / y⌋₊ • y : ℝ) = y * ⌊x / y⌋ := by
          rw [nsmul_eq_mul, natCast_floor_eq_intCast_floor (div_nonneg hx hy.le), mul_comm]
        change x = x - y * cut (x / y) + nsmulRec ⌊x / y⌋₊ y
        rw [nsmulRec_eq_nsmul, htimes, cut, if_pos (div_nonneg hx hy.le), sub_add_cancel]
      remainder_neg := fun x y => by
        change -x - y * cut (-x / y) = -(x - y * cut (x / y))
        rw [neg_div, cut_neg]
        push_cast
        ring }

def determinant (a b p : Point ℝ) : ℝ := (b.x - a.x) * (p.y - a.y) - (b.y - a.y) * (p.x - a.x)

noncomputable def meet? (a b c d : Point ℝ) : Option (Point ℝ) :=
  let det := (b.x - a.x) * (d.y - c.y) - (b.y - a.y) * (d.x - c.x)
  if det = 0 then none
  else
    let t := ((c.x - a.x) * (d.y - c.y) - (c.y - a.y) * (d.x - c.x)) / det
    some ⟨a.x + t * (b.x - a.x), a.y + t * (b.y - a.y)⟩

noncomputable instance : Sided ℝ where
  side a b p := SignType.sign (determinant a b p)
  meet? := meet?

end LaneRoute.Exact
