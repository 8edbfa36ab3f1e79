import Mathlib.Algebra.Order.Group.Defs
import Mathlib.Order.Defs.LinearOrder
import LaneRoute.Geometry.Angle

/-!
# Exact sums

What the costs of paths need of exact arithmetic: sums are not rounded, any two values
compare, and no value is beyond all others. Doubles fail all three.
-/

set_option autoImplicit false

namespace LaneRoute

/-- Scalars whose sums and comparisons are exact. -/
class ExactSums (α : Type) [Scalar α] : Prop where
  add_assoc (x y z : α) : x + y + z = x + (y + z)
  add_comm (x y : α) : x + y = y + x
  zero_add (x : α) : 0 + x = x
  le_refl (x : α) : x ≤ x
  le_trans (x y z : α) : x ≤ y → y ≤ z → x ≤ z
  le_antisymm (x y : α) : x ≤ y → y ≤ x → x = y
  le_total (x y : α) : x ≤ y ∨ y ≤ x
  lt_iff (x y : α) : x < y ↔ x ≤ y ∧ ¬ y ≤ x
  add_le_add_left (x y : α) : x ≤ y → ∀ z, x + z ≤ y + z
  bounded (x : α) : Scalar.isBounded x = true

namespace ExactSums

variable {α : Type} [Scalar α] [ExactSums α]

/-- The comparisons that decide are those of a linear order. -/
instance (priority := low) linearOrder : LinearOrder α where
  le_refl := le_refl
  le_trans := le_trans
  lt_iff_le_not_ge := lt_iff
  le_antisymm := le_antisymm
  le_total := le_total
  toDecidableLE := Scalar.leDecidable
  toDecidableLT := Scalar.ltDecidable

instance (priority := low) addCommMonoid : AddCommMonoid α where
  add_assoc := add_assoc
  add_comm := add_comm
  zero_add := zero_add
  add_zero x := (add_comm x 0).trans (zero_add x)
  nsmul := nsmulRec

instance (priority := low) isOrderedAddMonoid : IsOrderedAddMonoid α where
  add_le_add_left := add_le_add_left

end ExactSums

theorem nsmulRec_eq_nsmul {β : Type} [AddMonoid β] (n : Nat) (x : β) : nsmulRec n x = n • x := by
  induction n with
  | zero => exact (zero_nsmul x).symm
  | succ n ih => rw [nsmulRec, ih, succ_nsmul]

/-- Scalars whose quotients are not rounded either: what fits into a value some times over
does so at most as often as the quotient says. -/
class ExactQuotients (α : Type) [Scalar α] : Prop extends ExactSums α where
  le_ceiling (x y : α) (n : Nat) : 0 < y → n • y ≤ x → n ≤ Scalar.ceiling (x / y)

/-- Scalars whose products, roots and shares of half a turn have the signs that one expects. -/
class ExactSigns (α : Type) [Scalar α] : Prop extends ExactSums α where
  mul_nonneg (x y : α) : 0 ≤ x → 0 ≤ y → 0 ≤ x * y
  neg_nonneg (x : α) : x < 0 → 0 ≤ -x
  sqrt_nonneg (x : α) : 0 ≤ Scalar.sqrt x
  share_nonneg (n : Nat) : (0 : α) ≤ Scalar.pi / Scalar.ofCount n
  unreachable_nonneg : (0 : α) ≤ Scalar.unreachable

/-- Scalars whose finite values are on one side of zero or at it. Those of exact sums are such,
and so are doubles. -/
class FiniteSigns (α : Type) [Scalar α] : Prop where
  pos_of_finite (x : α) : Scalar.isFinite x = true → ¬ x ≤ 0 → 0 < x
  nonneg_of_pos (x : α) : 0 < x → 0 ≤ x

instance (priority := low) ExactSums.finiteSigns {α : Type} [Scalar α] [ExactSums α] :
    FiniteSigns α where
  pos_of_finite _ _ h := not_le.1 h
  nonneg_of_pos _ h := h.le

/-- Scalars in which angles keep their order when degrees are turned into radians. -/
class ExactDegrees (α : Type) [Scalar α] : Prop where
  ofDegrees_le (x y : α) : x ≤ y → Angle.ofDegrees x ≤ Angle.ofDegrees y

/-- Scalars whose differences and remainders are exact. A remainder is what is left of a value from
which another one was taken as often as it fits, and it has the sign of the value. -/
class ExactRemainders (α : Type) [Scalar α] : Prop extends ExactSums α where
  neg_add_cancel (x : α) : -x + x = 0
  sub_eq_add_neg (x y : α) : x - y = x + -y
  two_mul (x : α) : Scalar.two * x = x + x
  remainder_mem (x y : α) : 0 ≤ x → 0 < y →
    0 ≤ Scalar.remainder x y ∧ Scalar.remainder x y < y
  exists_remainder (x y : α) : 0 ≤ x → 0 < y → ∃ n : Nat, x = Scalar.remainder x y + n • y
  remainder_neg (x y : α) : Scalar.remainder (-x) y = -Scalar.remainder x y

namespace ExactRemainders

variable {α : Type} [Scalar α] [ExactRemainders α]

instance (priority := low) addCommGroup : AddCommGroup α where
  __ := ExactSums.addCommMonoid
  sub_eq_add_neg := sub_eq_add_neg
  zsmul := zsmulRec
  neg_add_cancel := neg_add_cancel

end ExactRemainders

end LaneRoute
