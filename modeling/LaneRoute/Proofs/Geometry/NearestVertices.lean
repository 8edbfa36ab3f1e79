import LaneRoute.Proofs.Geometry.Feet

/-!
# Nearest vertices of polylines

The loop over the vertices keeps the first of those nearest to a point, roundings included. A piece
with the nearest place of all need not end at this vertex: it does when no vertex is nearer than its
nearer end and none before it is as near. In exact arithmetic one of its ends is not much farther
than the place.
-/

set_option autoImplicit false

namespace LaneRoute.Polyline

open Scalar Point LaneRoute.Ring

/-! ## The loop over the vertices -/

section Ordered

variable {α : Type} [Scalar α]

/-- How far away a vertex is from a point, as the loop over the vertices measures it. -/
def reach (p : Point α) (v : Vertex α) : α := hypot (v.x - p.x) (v.y - p.y)

/-- A vertex with an index: no vertex is nearer to a point, and the earlier ones are farther. -/
structure IsNearestVertex (p : Point α) (vertices : Polyline α) (i : Nat) (v : Vertex α) :
    Prop where
  vertex : vertices[i]? = some v
  least : ∀ w ∈ vertices, reach p v ≤ reach p w
  first : ∀ j w, j < i → vertices[j]? = some w → reach p v < reach p w

theorem IsNearestVertex.lt_length {p : Point α} {vertices : Polyline α} {i : Nat} {v : Vertex α}
    (h : IsNearestVertex p vertices i v) : i < List.length vertices :=
  (List.getElem?_eq_some_iff.1 h.vertex).1

theorem isNearestVertex_singleton {p : Point α} {v : Vertex α}
    (hv : isNumber (reach p v) = true) : IsNearestVertex p [v] 0 v where
  vertex := rfl
  least w hw := by
    rw [List.mem_singleton.1 hw]
    exact of_decide_eq_true hv
  first j w hj := absurd hj (Nat.not_lt_zero j)

variable [OrderedNumbers α]

theorem IsNearestVertex.concat {p : Point α} {vertices : Polyline α} {i : Nat} {v w : Vertex α}
    (h : IsNearestVertex p vertices i v) (hv : isNumber (reach p v) = true)
    (hw : isNumber (reach p w) = true) :
    (reach p w < reach p v → IsNearestVertex p (vertices ++ [w]) (List.length vertices) w) ∧
    (¬ reach p w < reach p v → IsNearestVertex p (vertices ++ [w]) i v) := by
  constructor
  · intro hlt
    have hall : ∀ u ∈ vertices, reach p w < reach p u :=
      fun u hu => OrderedNumbers.lt_of_lt_of_le hlt (h.least u hu)
    refine ⟨by simp, fun u hu => ?_, fun j u hj hu => ?_⟩
    · rcases List.mem_append.1 hu with hu | hu
      · exact OrderedNumbers.le_of_lt (hall u hu)
      · rw [List.mem_singleton.1 hu]
        exact of_decide_eq_true hw
    · rw [List.getElem?_append_left hj] at hu
      exact hall u (List.mem_of_getElem? hu)
  · intro hnot
    have hi := h.lt_length
    refine ⟨?_, fun u hu => ?_, fun j u hj hu => ?_⟩
    · rw [List.getElem?_append_left hi, h.vertex]
    · rcases List.mem_append.1 hu with hu | hu
      · exact h.least u hu
      · rw [List.mem_singleton.1 hu]
        exact (OrderedNumbers.not_lt_iff hv hw).1 hnot
    · rw [List.getElem?_append_left (hj.trans hi)] at hu
      exact h.first j u hj hu

theorem exists_nearestFrom {p : Point α} {before : Polyline α} {best : Nat} {v : Vertex α}
    (h : IsNearestVertex p before best v) (hv : isNumber (reach p v) = true)
    {rest : List (Vertex α)} (hrest : ∀ w ∈ rest, isNumber (reach p w) = true) :
    ∃ w, IsNearestVertex p (before ++ rest)
      (nearestFrom p (List.length before) best (reach p v) rest) w := by
  induction rest generalizing before best v with
  | nil => exact ⟨v, by simpa [nearestFrom] using h⟩
  | cons w rest ih =>
    obtain ⟨hw, hlater⟩ := List.forall_mem_cons.1 hrest
    have hsplit : before ++ w :: rest = (before ++ [w]) ++ rest := by simp
    have hlength : List.length before + 1 = List.length (before ++ [w]) := by simp
    have hreach : hypot (w.x - p.x) (w.y - p.y) = reach p w := rfl
    rw [nearestFrom, hreach, hsplit, hlength]
    simp only [hv, hw, Bool.true_and, Bool.not_true, Bool.or_false, decide_eq_true_eq]
    split
    case isTrue hlt => exact ih ((h.concat hv hw).1 hlt) hw hlater
    case isFalse hnot => exact ih ((h.concat hv hw).2 hnot) hv hlater

theorem exists_nearestIndex {vertices : Polyline α} (h : vertices ≠ []) {p : Point α}
    (hnumber : ∀ v ∈ vertices, isNumber (reach p v) = true) :
    ∃ i v, nearestIndex? p vertices = some i ∧ IsNearestVertex p vertices i v := by
  cases vertices with
  | nil => exact absurd rfl h
  | cons v rest =>
    obtain ⟨hv, hrest⟩ := List.forall_mem_cons.1 hnumber
    obtain ⟨w, hw⟩ := exists_nearestFrom (isNearestVertex_singleton hv) hv hrest
    exact ⟨_, w, rfl, hw⟩

/-! ## The ends of a piece -/

/-- One end of a piece is as near as any vertex, and one is nearer than those before the piece. -/
structure EndsNearest (p : Point α) (vertices : Polyline α) (i : Nat) (a b : Vertex α) : Prop where
  least : ∀ w ∈ vertices, reach p a ≤ reach p w ∨ reach p b ≤ reach p w
  first : ∀ j w, j < i → vertices[j]? = some w → reach p a < reach p w ∨ reach p b < reach p w

/-- This is what makes the nearest vertex an end of the piece. -/
theorem IsNearestVertex.isEnd_iff {p : Point α} {vertices : Polyline α} {i k : Nat}
    {a b v : Vertex α} (h : IsNearestVertex p vertices i v) (hpiece : IsPiece vertices k a b) :
    i = k ∨ i = k + 1 ↔ EndsNearest p vertices k a b := by
  constructor
  · rintro (rfl | rfl)
    · obtain rfl := Option.some.inj (h.vertex.symm.trans hpiece.1)
      exact ⟨fun w hw => Or.inl (h.least w hw), fun j w hj hw => Or.inl (h.first j w hj hw)⟩
    · obtain rfl := Option.some.inj (h.vertex.symm.trans hpiece.2)
      exact ⟨fun w hw => Or.inr (h.least w hw),
        fun j w hj hw => Or.inr (h.first j w (hj.trans (Nat.lt_succ_self k)) hw)⟩
  · intro hends
    have ha := h.least a (List.mem_of_getElem? hpiece.1)
    have hb := h.least b (List.mem_of_getElem? hpiece.2)
    have hbefore : ¬ i < k := fun hi => (hends.first i v hi h.vertex).elim
      (OrderedNumbers.not_lt_of_le ha) (OrderedNumbers.not_lt_of_le hb)
    -- behind the piece the nearest vertex would be nearer than both ends
    have hbehind : ¬ k + 1 < i := fun hi =>
      (hends.least v (List.mem_of_getElem? h.vertex)).elim
        (fun hle => OrderedNumbers.not_lt_of_le hle (h.first k a (by omega) hpiece.1))
        fun hle => OrderedNumbers.not_lt_of_le hle (h.first (k + 1) b hi hpiece.2)
    omega

end Ordered

theorem reach_eq_distance (p : Point ℝ) (v : Vertex ℝ) : reach p v = p.distance v.flat := by
  have hroot : reach p v =
      √((v.x - p.x) * (v.x - p.x) + (v.y - p.y) * (v.y - p.y)) := rfl
  rw [hroot, distance_eq]
  congr 1
  simp only [Vertex.flat]
  ring

theorem step_eq_distance (a b : Vertex ℝ) : step a b = a.flat.distance b.flat :=
  reach_eq_distance a.flat b

/-! ## How far the nearest vertex is -/

theorem sq_distance (p q : Point ℝ) : p.distance q ^ 2 = (p.x - q.x) ^ 2 + (p.y - q.y) ^ 2 := by
  rw [distance_eq, Real.sq_sqrt (add_nonneg (mul_self_nonneg _) (mul_self_nonneg _)), sq, sq]

theorem sq_distance_between (p a b : Point ℝ) (t : ℝ) :
    (1 - t) * p.distance a ^ 2 + t * p.distance b ^ 2 =
      p.distance (between a b t) ^ 2 + t * (1 - t) * a.distance b ^ 2 := by
  simp only [sq_distance, between]
  ring

theorem min_distance_le (p a b : Point ℝ) {t : ℝ} (h0 : 0 ≤ t) (h1 : t ≤ 1) :
    min (p.distance a) (p.distance b) ≤
      √(p.distance (between a b t) ^ 2 + (a.distance b / 2) ^ 2) := by
  apply Real.le_sqrt_of_sq_le
  have hnonneg : 0 ≤ min (p.distance a) (p.distance b) :=
    le_min (Real.sqrt_nonneg _) (Real.sqrt_nonneg _)
  have ha : min (p.distance a) (p.distance b) ^ 2 ≤ p.distance a ^ 2 :=
    pow_le_pow_left₀ hnonneg (min_le_left _ _) 2
  have hb : min (p.distance a) (p.distance b) ^ 2 ≤ p.distance b ^ 2 :=
    pow_le_pow_left₀ hnonneg (min_le_right _ _) 2
  have hshares : t * (1 - t) ≤ 1 / 4 := by nlinarith [sq_nonneg (t - 1 / 2)]
  calc min (p.distance a) (p.distance b) ^ 2
      = (1 - t) * min (p.distance a) (p.distance b) ^ 2 +
          t * min (p.distance a) (p.distance b) ^ 2 := by ring
    _ ≤ (1 - t) * p.distance a ^ 2 + t * p.distance b ^ 2 :=
        add_le_add (mul_le_mul_of_nonneg_left ha (sub_nonneg.2 h1))
          (mul_le_mul_of_nonneg_left hb h0)
    _ = p.distance (between a b t) ^ 2 + t * (1 - t) * a.distance b ^ 2 :=
        sq_distance_between p a b t
    _ ≤ p.distance (between a b t) ^ 2 + 1 / 4 * a.distance b ^ 2 := by gcongr
    _ = p.distance (between a b t) ^ 2 + (a.distance b / 2) ^ 2 := by ring

theorem IsNearestVertex.distance_le {p : Point ℝ} {vertices : Polyline ℝ} {i k : Nat} {v : Vertex ℝ}
    {f : Foot ℝ} (h : IsNearestVertex p vertices i v) (hf : IsNearest p vertices k f) {width : ℝ}
    (hstep : step f.start f.stop ≤ width) :
    p.distance v.flat ≤ √(f.distance ^ 2 + (width / 2) ^ 2) := by
  have hstart := h.least f.start (List.mem_of_getElem? hf.piece.1)
  have hstop := h.least f.stop (List.mem_of_getElem? hf.piece.2)
  simp only [reach_eq_distance] at hstart hstop
  have hnonneg : 0 ≤ step f.start f.stop := Real.sqrt_nonneg _
  calc p.distance v.flat ≤ min (p.distance f.start.flat) (p.distance f.stop.flat) :=
        le_min hstart hstop
    _ ≤ √(f.distance ^ 2 + (step f.start f.stop / 2) ^ 2) := by
        rw [← hf.distance, step_eq_distance]
        exact min_distance_le p _ _ hf.share.1 hf.share.2
    _ ≤ √(f.distance ^ 2 + (width / 2) ^ 2) := by gcongr

end LaneRoute.Polyline
