import LaneRoute.Proofs.Number.Ordered
import LaneRoute.Geometry.Ring

/-!
# Distances as numbers

Distances are compared before they are kept, and what compares with nothing is passed over. So
the distance to an area is a number that is not below zero, whatever was rounded or overflowed on
the way.
-/

set_option autoImplicit false

namespace LaneRoute.Ring

open Scalar

section Scalars

variable {α : Type} [Scalar α]

section Ordered

variable [OrderedNumbers α]

theorem lesser_keeps {P : α → Prop} {best : Option α} {d : α}
    (hbest : ∀ b ∈ best, P b) (hd : isNumber d = true → P d) : ∀ b ∈ lesser best d, P b := by
  cases best with
  | none =>
    intro b hb
    rw [lesser, Option.mem_def, Option.ite_none_right_eq_some] at hb
    obtain ⟨hbounded, hb⟩ := hb
    exact Option.some.inj hb ▸ hd (OrderedNumbers.isNumber_of_isBounded d hbounded)
  | some least =>
    intro b hb
    obtain rfl := Option.some.inj hb
    split
    next hlt =>
      have hle := ((OrderedNumbers.lt_iff _ _).1 hlt).1
      exact hd (OrderedNumbers.isNumber_of_le d least hle)
    next => exact hbest least rfl

theorem boundaryDistance_keeps {P : α → Prop} {ring : Ring α} {p : Point α}
    (hedges : ∀ a b, isNumber (edgeDistance p a b) = true → P (edgeDistance p a b))
    (hunreachable : P unreachable) : P (ring.boundaryDistance p) := by
  have hfold : ∀ (es : List (Point α × Point α)) (best : Option α), (∀ b ∈ best, P b) →
      ∀ b ∈ es.foldl (fun best e => lesser best (edgeDistance p e.1 e.2)) best, P b := by
    intro es
    induction es with
    | nil => exact fun _ h => h
    | cons e es ih => exact fun best h => ih _ (lesser_keeps h (hedges e.1 e.2))
  unfold boundaryDistance
  cases hd : ring.edges.foldl (fun best e => lesser best (edgeDistance p e.1 e.2)) none with
  | none => exact hunreachable
  | some d => exact hfold ring.edges none (by simp) d hd

theorem isNumber_boundaryDistance (ring : Ring α) (p : Point α) :
    isNumber (ring.boundaryDistance p) = true :=
  boundaryDistance_keeps (P := fun d => isNumber d = true) (fun _ _ h => h)
    OrderedNumbers.isNumber_unreachable

end Ordered

section Rounded

variable [RoundedNumbers α]

theorem magnitude_not_neg (x : α) : ¬ magnitude x < 0 := by
  unfold magnitude
  split
  next h => exact RoundedNumbers.neg_not_neg x h
  next h => exact h

theorem edgeDistance_not_neg (p a b : Point α) : ¬ edgeDistance p a b < 0 := by
  unfold edgeDistance
  dsimp only
  split_ifs
  · exact RoundedNumbers.sqrt_not_neg _
  · exact RoundedNumbers.sqrt_not_neg _
  · exact RoundedNumbers.sqrt_not_neg _
  · exact RoundedNumbers.mul_not_neg _ _ (magnitude_not_neg _) (RoundedNumbers.sqrt_not_neg _)

theorem boundaryDistance_not_neg (ring : Ring α) (p : Point α) :
    ¬ ring.boundaryDistance p < 0 :=
  boundaryDistance_keeps (P := fun d => ¬ d < 0) (fun a b _ => edgeDistance_not_neg p a b)
    RoundedNumbers.unreachable_not_neg

end Rounded

end Scalars

section Areas

variable {α : Type} [Sided α]

theorem distance_of_contains {ring : Ring α} {p : Point α} (h : ring.contains p = true) :
    ring.distance p = 0 := if_pos h

theorem isNumber_distance [OrderedNumbers α] (ring : Ring α) (p : Point α) :
    isNumber (ring.distance p) = true := by
  unfold distance
  split
  · exact OrderedNumbers.isNumber_zero
  · exact isNumber_boundaryDistance ring p

theorem distance_nonneg [RoundedNumbers α] (ring : Ring α) (p : Point α) :
    0 ≤ ring.distance p := by
  have hzero : isNumber (0 : α) = true := OrderedNumbers.isNumber_zero
  rw [← OrderedNumbers.not_lt_iff hzero (isNumber_distance ring p)]
  unfold distance
  split
  · exact fun h => ((OrderedNumbers.lt_iff _ _).1 h).2 (of_decide_eq_true hzero)
  · exact boundaryDistance_not_neg ring p

end Areas

end LaneRoute.Ring
