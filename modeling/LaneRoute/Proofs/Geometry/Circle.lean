import LaneRoute.Proofs.Number.Real
import Mathlib.Algebra.Order.Group.Abs

/-!
# The circle of headings

A wrapped angle is, of all that differ from it by whole turns, one of the least size. So the size
of a wrapped difference is the distance of two headings on the circle, however large half a turn
is, and has the laws of a distance.
-/

set_option autoImplicit false

namespace LaneRoute.Angle

open Scalar

section Exact

variable {α : Type} [Scalar α] [ExactRemainders α]

theorem magnitude_eq (x : α) : magnitude x = |x| := by
  unfold magnitude
  split
  next h => exact (abs_of_neg h).symm
  next h => exact (abs_of_nonneg (not_lt.1 h)).symm

theorem fullTurn_eq : (fullTurn : α) = pi + pi := ExactRemainders.two_mul pi

/-! ## Remainders -/

theorem remainder_spec (x : α) {y : α} (hy : 0 < y) :
    -y < remainder x y ∧ remainder x y < y ∧ ∃ k : ℤ, x = remainder x y + k • y := by
  rcases le_total 0 x with hx | hx
  · obtain ⟨hnonneg, hlt⟩ := ExactRemainders.remainder_mem x y hx hy
    obtain ⟨n, hn⟩ := ExactRemainders.exists_remainder x y hx hy
    exact ⟨(neg_neg_of_pos hy).trans_le hnonneg, hlt, n, by rwa [natCast_zsmul]⟩
  · have hneg : 0 ≤ -x := neg_nonneg.2 hx
    obtain ⟨hnonneg, hlt⟩ := ExactRemainders.remainder_mem (-x) y hneg hy
    obtain ⟨n, hn⟩ := ExactRemainders.exists_remainder (-x) y hneg hy
    rw [ExactRemainders.remainder_neg] at hnonneg hlt hn
    refine ⟨neg_lt.1 hlt, (neg_nonneg.1 hnonneg).trans_lt hy, -n, ?_⟩
    rw [neg_zsmul, natCast_zsmul, ← neg_inj, hn, neg_add, neg_neg]

variable (hpi : 0 < (pi : α))

include hpi

theorem fullTurn_pos : 0 < (fullTurn : α) := by
  rw [fullTurn_eq]
  exact add_pos hpi hpi

theorem wrapped_spec (angle : α) :
    -pi ≤ wrapped angle ∧ wrapped angle < pi ∧ ∃ k : ℤ, wrapped angle = angle + k • fullTurn := by
  obtain ⟨hlow, hhigh, k, hk⟩ := remainder_spec (angle + pi) (fullTurn_pos hpi)
  set rest := remainder (angle + pi) fullTurn
  have hangle : angle = rest + k • fullTurn - pi := by rw [← hk, add_sub_cancel_right]
  have hwrapped : wrapped angle = (if rest < 0 then rest + fullTurn else rest) - pi := rfl
  rw [hwrapped]
  split
  next h =>
    refine ⟨?_, ?_, 1 - k, ?_⟩
    · rw [neg_le_sub_iff_le_add, le_add_iff_nonneg_left]
      exact (neg_lt_iff_pos_add.1 hlow).le
    · rw [sub_lt_iff_lt_add, ← fullTurn_eq]
      exact add_lt_of_neg_left _ h
    · rw [hangle, sub_zsmul, one_zsmul]
      abel
  next h =>
    refine ⟨?_, ?_, -k, ?_⟩
    · rw [neg_le_sub_iff_le_add, le_add_iff_nonneg_left]
      exact not_lt.1 h
    · rwa [sub_lt_iff_lt_add, ← fullTurn_eq]
    · rw [hangle, neg_zsmul]
      abel

theorem abs_wrapped_le (angle : α) : |wrapped angle| ≤ pi := by
  obtain ⟨hlow, hhigh, -⟩ := wrapped_spec hpi angle
  exact abs_le.2 ⟨hlow, hhigh.le⟩

theorem abs_wrapped_le_abs (angle : α) (k : ℤ) :
    |wrapped angle| ≤ |wrapped angle + k • fullTurn| := by
  obtain ⟨hlow, hhigh, -⟩ := wrapped_spec hpi angle
  have hturn := fullTurn_pos hpi
  rcases lt_trichotomy k 0 with hk | rfl | hk
  · -- a turn back or more ends below minus half a turn
    refine (abs_wrapped_le hpi angle).trans (le_abs.2 (Or.inr ?_))
    have hback : k • (fullTurn : α) ≤ -fullTurn := by
      have hle := zsmul_le_zsmul_left hturn.le (Int.le_sub_one_of_lt hk)
      rwa [zero_sub, neg_one_zsmul] at hle
    have hsum := add_le_add hhigh.le hback
    rw [fullTurn_eq, neg_add, add_neg_cancel_left] at hsum
    rwa [le_neg, fullTurn_eq]
  · rw [zero_zsmul, add_zero]
  · refine (abs_wrapped_le hpi angle).trans (le_abs.2 (Or.inl ?_))
    have hahead : (fullTurn : α) ≤ k • fullTurn := by
      have hle := zsmul_le_zsmul_left hturn.le (Int.add_one_le_of_lt hk)
      rwa [zero_add, one_zsmul] at hle
    have hsum := add_le_add hlow hahead
    rwa [fullTurn_eq, neg_add_cancel_left, ← fullTurn_eq] at hsum

/-! ## Distances on the circle -/

theorem between_isLeast (a b : α) :
    IsLeast (Set.range fun k : ℤ => |a - b + k • fullTurn|) (between a b) := by
  obtain ⟨-, -, k, hk⟩ := wrapped_spec hpi (a - b)
  rw [between, magnitude_eq]
  constructor
  · exact ⟨k, congrArg abs hk.symm⟩
  · rintro _ ⟨j, rfl⟩
    have hsame : a - b + j • fullTurn = wrapped (a - b) + (j - k) • fullTurn := by
      rw [hk, sub_zsmul]
      abel
    exact (abs_wrapped_le_abs hpi (a - b) (j - k)).trans_eq (congrArg abs hsame.symm)

theorem between_congr {a b c d : α} (e : ℤ ≃ ℤ)
    (h : ∀ k : ℤ, |a - b + k • fullTurn| = |c - d + e k • fullTurn|) :
    between a b = between c d := by
  have hrange : (Set.range fun k : ℤ => |a - b + k • fullTurn|) =
      Set.range fun k : ℤ => |c - d + k • fullTurn| := by
    rw [← e.surjective.range_comp fun k : ℤ => |c - d + k • fullTurn|]
    exact congrArg Set.range (funext h)
  exact (between_isLeast hpi a b).unique (hrange ▸ between_isLeast hpi c d)

theorem between_comm (a b : α) : between a b = between b a := by
  refine between_congr hpi (Equiv.neg ℤ) fun k => ?_
  rw [← abs_neg, neg_add, neg_sub, Equiv.neg_apply, neg_zsmul]

theorem between_add_fullTurn (a b : α) : between (a + fullTurn) b = between a b := by
  refine between_congr hpi (Equiv.addRight 1) fun k => ?_
  rw [Equiv.coe_addRight, add_zsmul, one_zsmul]
  congr 1
  abel

omit hpi in
theorem between_nonneg (a b : α) : 0 ≤ between a b := by
  rw [between, magnitude_eq]
  exact abs_nonneg _

theorem between_le (a b : α) : between a b ≤ pi := by
  rw [between, magnitude_eq]
  exact abs_wrapped_le hpi _

theorem between_eq_zero_iff (a b : α) : between a b = 0 ↔ ∃ k : ℤ, a = b + k • fullTurn := by
  obtain ⟨⟨i, hi⟩, hleast⟩ := between_isLeast hpi a b
  constructor
  · intro hzero
    have hsum := abs_eq_zero.1 (hi.trans hzero)
    refine ⟨-i, ?_⟩
    rw [neg_zsmul, ← sub_eq_add_neg, eq_sub_iff_add_eq, ← sub_eq_zero, ← hsum]
    abel
  · rintro ⟨k, rfl⟩
    have hzero : b + k • fullTurn - b + -k • fullTurn = (0 : α) := by
      rw [neg_zsmul]
      abel
    have hle := hleast ⟨-k, congrArg abs hzero⟩
    rw [abs_zero] at hle
    exact le_antisymm hle (between_nonneg _ _)

theorem between_triangle (a b c : α) : between a c ≤ between a b + between b c := by
  obtain ⟨⟨i, hi⟩, -⟩ := between_isLeast hpi a b
  obtain ⟨⟨j, hj⟩, -⟩ := between_isLeast hpi b c
  calc between a c ≤ |a - c + (i + j) • fullTurn| := (between_isLeast hpi a c).2 ⟨i + j, rfl⟩
    _ = |(a - b + i • fullTurn) + (b - c + j • fullTurn)| := by
      rw [add_zsmul]
      congr 1
      abel
    _ ≤ |a - b + i • fullTurn| + |b - c + j • fullTurn| := abs_add_le _ _
    _ = between a b + between b c := congrArg₂ (· + ·) hi hj

/-- A wrapped angle lies from minus half a turn on and before half a turn, and differs from the
angle by whole turns. So what is between two headings is the least size that their difference has
after whole turns, and a distance: symmetric, at most half a turn, the same after a turn of either
heading, zero for one direction only, and never shorter by way of a third heading. -/
theorem between_isDistance :
    (∀ angle : α, wrapped angle ∈ Set.Ico (-pi) pi ∧
      ∃ k : ℤ, wrapped angle = angle + k • fullTurn) ∧
    (∀ a b : α, IsLeast (Set.range fun k : ℤ => |a - b + k • fullTurn|) (between a b)) ∧
    (∀ a b : α, between a b = between b a) ∧
    (∀ a b : α, between a b ∈ Set.Icc 0 pi) ∧
    (∀ a b : α, between (a + fullTurn) b = between a b ∧ between a (b + fullTurn) = between a b) ∧
    (∀ a b : α, between a b = 0 ↔ ∃ k : ℤ, a = b + k • fullTurn) ∧
    ∀ a b c : α, between a c ≤ between a b + between b c := by
  refine ⟨?wrapped, between_isLeast hpi, between_comm hpi, ?range, ?turn, between_eq_zero_iff hpi,
    between_triangle hpi⟩
  case wrapped =>
    intro angle
    obtain ⟨hlow, hhigh, hturns⟩ := wrapped_spec hpi angle
    exact ⟨⟨hlow, hhigh⟩, hturns⟩
  case range => exact fun a b => ⟨between_nonneg a b, between_le hpi a b⟩
  case turn =>
    intro a b
    refine ⟨between_add_fullTurn hpi a b, ?_⟩
    rw [between_comm hpi, between_add_fullTurn hpi, between_comm hpi]

end Exact

/-! ## Half a turn of three -/

/-- With half a turn of three, seven and one are the same heading. -/
theorem between_seven : letI := Exact.withHalfTurn 3
    0 < (pi : ℝ) ∧ between (7 : ℝ) 1 = 0 ∧ between (7 : ℝ) (-1) = between 1 (-1) ∧
      between (7 : ℝ) (-1) ≤ 3 := by
  let _ := Exact.withHalfTurn 3
  have _ := Exact.exactRemainders_withHalfTurn 3
  have hpi : 0 < (pi : ℝ) := three_pos
  have hseven : (1 : ℝ) + fullTurn = 7 := by
    have hturn : (fullTurn : ℝ) = (1 + 1) * 3 := rfl
    rw [hturn]
    norm_num
  obtain ⟨-, -, -, hrange, hturn, hzero, -⟩ := between_isDistance hpi
  have hsame : ∀ b : ℝ, between 7 b = between 1 b := fun b => hseven ▸ (hturn 1 b).1
  refine ⟨hpi, ?_, hsame (-1), (hrange 7 (-1)).2⟩
  rw [hsame, hzero]
  exact ⟨0, by rw [zero_zsmul, add_zero]⟩

end LaneRoute.Angle
