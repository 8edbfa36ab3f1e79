import LaneRoute.Proofs.Number.Exact
import LaneRoute.Proofs.WeakOrder

/-!
# Ordered numbers

What comparisons need of scalars, roundings and infinities included: any two numbers compare.
Nothing is said of what is no number, and values that compare as equal need not be the same, as
the two zeros are not. Signs and bounds outlast roundings as well: what is made of values that
are not below zero is not below zero, unless it was subtracted.
-/

set_option autoImplicit false

namespace LaneRoute

open Scalar

/-- Scalars whose numbers all compare. Those of exact sums are such, and so are doubles. -/
class OrderedNumbers (α : Type) [Scalar α] : Prop where
  le_trans (x y z : α) : x ≤ y → y ≤ z → x ≤ z
  le_total (x y : α) : isNumber x = true → isNumber y = true → x ≤ y ∨ y ≤ x
  lt_iff (x y : α) : x < y ↔ x ≤ y ∧ ¬ y ≤ x
  isNumber_of_le (x y : α) : x ≤ y → isNumber x = true
  isNumber_of_isBounded (x : α) : isBounded x = true → isNumber x = true
  isNumber_zero : isNumber (0 : α) = true
  isNumber_unreachable : isNumber (unreachable : α) = true

/-- Scalars whose comparisons, signs and bounds are right, whatever is rounded. Those of exact
signs are such, and so are doubles. -/
class RoundedNumbers (α : Type) [Scalar α] : Prop extends OrderedNumbers α where
  isBounded_zero : isBounded (0 : α) = true
  isBounded_of_le (x y : α) : x ≤ y → isBounded y = true → isBounded x = true
  mul_not_neg (x y : α) : ¬ x < 0 → ¬ y < 0 → ¬ x * y < 0
  neg_not_neg (x : α) : x < 0 → ¬ -x < 0
  sqrt_not_neg (x : α) : ¬ sqrt x < 0
  eighth_not_neg : ¬ (pi / ofCount 4 : α) < 0
  unreachable_not_neg : ¬ (unreachable : α) < 0

namespace ExactSums

variable {α : Type} [Scalar α] [ExactSums α]

theorem isNumber (x : α) : Scalar.isNumber x = true := decide_eq_true (le_refl x)

instance (priority := low) orderedNumbers : OrderedNumbers α where
  le_trans := le_trans
  le_total x y _ _ := le_total x y
  lt_iff := lt_iff
  isNumber_of_le x _ _ := isNumber x
  isNumber_of_isBounded x _ := isNumber x
  isNumber_zero := isNumber 0
  isNumber_unreachable := isNumber unreachable

end ExactSums

namespace ExactSigns

variable {α : Type} [Scalar α] [ExactSigns α]

instance (priority := low) roundedNumbers : RoundedNumbers α where
  isBounded_zero := ExactSums.bounded 0
  isBounded_of_le x _ _ _ := ExactSums.bounded x
  mul_not_neg x y hx hy := not_lt.2 (mul_nonneg x y (not_lt.1 hx) (not_lt.1 hy))
  neg_not_neg x h := not_lt.2 (neg_nonneg x h)
  sqrt_not_neg x := not_lt.2 (sqrt_nonneg x)
  eighth_not_neg := not_lt.2 (share_nonneg 4)
  unreachable_not_neg := not_lt.2 unreachable_nonneg

end ExactSigns

namespace OrderedNumbers

variable {α β : Type} [Scalar α] [OrderedNumbers α]

theorem isNumber_of_isFinite {x : α} (h : isFinite x = true) : isNumber x = true :=
  isNumber_of_isBounded x (Bool.and_eq_true_iff.1 h).1

theorem le_of_lt {x y : α} (h : x < y) : x ≤ y := ((lt_iff x y).1 h).1

theorem lt_irrefl (x : α) : ¬ x < x := fun h => ((lt_iff x x).1 h).2 (le_of_lt h)

theorem lt_of_lt_of_le {x y z : α} (hxy : x < y) (hyz : y ≤ z) : x < z := by
  refine (lt_iff x z).2 ⟨le_trans x y z (le_of_lt hxy) hyz, fun hzx => ?_⟩
  exact ((lt_iff x y).1 hxy).2 (le_trans y z x hyz hzx)

theorem lt_of_le_of_lt {x y z : α} (hxy : x ≤ y) (hyz : y < z) : x < z := by
  refine (lt_iff x z).2 ⟨le_trans x y z hxy (le_of_lt hyz), fun hzx => ?_⟩
  exact ((lt_iff y z).1 hyz).2 (le_trans z x y hzx hxy)

theorem not_lt_of_le {x y : α} (h : x ≤ y) : ¬ y < x := fun hlt => ((lt_iff y x).1 hlt).2 h

theorem not_lt_iff {x y : α} (hx : isNumber x = true) (hy : isNumber y = true) :
    ¬ y < x ↔ x ≤ y := by
  rw [lt_iff]
  constructor
  · intro h
    by_contra hxy
    exact h ⟨(le_total x y hx hy).resolve_left hxy, hxy⟩
  · rintro hxy ⟨-, h⟩
    exact h hxy

theorem lt_or_lt {x y z : α} (hx : isNumber x = true) (hy : isNumber y = true)
    (hz : isNumber z = true) (h : x < z) : x < y ∨ y < z := by
  by_contra! hnot
  have hyx := (not_lt_iff hy hx).1 hnot.1
  have hzy := (not_lt_iff hz hy).1 hnot.2
  exact ((lt_iff x z).1 h).2 (le_trans z y x hzy hyx)

theorem precedes_iff_lt_or {x y : α} {tie : Bool} :
    precedes x y tie = true ↔ x < y ∨ (x ≤ y ∧ y ≤ x) ∧ tie = true := by
  by_cases h : agrees x y = true
  · have hlevel : x ≤ y ∧ y ≤ x := by simpa [agrees] using h
    have hlt : ¬ x < y := fun hlt => ((lt_iff x y).1 hlt).2 hlevel.2
    simp [precedes, h, hlevel, hlt]
  · have hlevel : ¬ (x ≤ y ∧ y ≤ x) := by simpa [agrees] using h
    simp [precedes, h, hlevel]

theorem weakOrder_lt {key : β → α} {kind : β → Prop}
    (hkey : ∀ x, kind x → isNumber (key x) = true) :
    WeakOrder (fun x y => decide (key x < key y)) kind where
  asymm x y _ _ h := by
    rw [decide_eq_true_iff, lt_iff] at h
    exact decide_eq_false fun hyx => h.2 ((lt_iff _ _).1 hyx).1
  apart x y z hx hy hz h := by
    simp only [decide_eq_true_iff] at h ⊢
    exact lt_or_lt (hkey x hx) (hkey y hy) (hkey z hz) h

theorem weakOrder_precedes {key : β → α} {tie : β → β → Bool} {kind : β → Prop}
    (hkey : ∀ x, kind x → isNumber (key x) = true) (ht : WeakOrder tie kind) :
    WeakOrder (fun x y => precedes (key x) (key y) (tie x y)) kind where
  asymm x y hx hy h := by
    rw [Bool.eq_false_iff, Ne, precedes_iff_lt_or]
    rcases precedes_iff_lt_or.1 h with hlt | ⟨hlevel, htie⟩
    · have hle := (lt_iff _ _).1 hlt
      rintro (hgt | ⟨hlevel, -⟩)
      · exact hle.2 ((lt_iff _ _).1 hgt).1
      · exact hle.2 hlevel.1
    · rintro (hgt | ⟨-, htie'⟩)
      · exact ((lt_iff _ _).1 hgt).2 hlevel.1
      · rw [ht.asymm x y hx hy htie] at htie'
        cases htie'
  apart x y z hx hy hz h := by
    simp only [precedes_iff_lt_or] at h ⊢
    by_cases hxy : key x < key y
    · exact Or.inl (Or.inl hxy)
    by_cases hyz : key y < key z
    · exact Or.inr (Or.inl hyz)
    -- otherwise all three are level, and the tie decides
    have hyx := (not_lt_iff (hkey y hy) (hkey x hx)).1 hxy
    have hzy := (not_lt_iff (hkey z hz) (hkey y hy)).1 hyz
    rcases h with hlt | ⟨hlevel, htie⟩
    · exact absurd (le_trans _ _ _ hzy hyx) ((lt_iff _ _).1 hlt).2
    · have hxy' := le_trans _ _ _ hlevel.1 hzy
      have hyz' := le_trans _ _ _ hyx hlevel.1
      exact (ht.apart x y z hx hy hz htie).imp (fun h => Or.inr ⟨⟨hxy', hyx⟩, h⟩)
        fun h => Or.inr ⟨⟨hyz', hzy⟩, h⟩

end OrderedNumbers

end LaneRoute
