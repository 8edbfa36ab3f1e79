import LaneRoute.Proofs.Geometry.Distances
import LaneRoute.Proofs.Number.Real

/-!
# Distances to rectangles

No boundary is nearer to a point than the rectangle around it. Each edge has a place at the
distance of the edge, the rectangle holds that place, and going to the place of the rectangle
that is nearest to a point is never longer than going to another one.
-/

set_option autoImplicit false

namespace LaneRoute

namespace Ring

section Exact

variable {α : Type} [Scalar α] [ExactSums α]

theorem agrees_iff {x y : α} : Scalar.agrees x y = true ↔ x = y := by
  rw [Scalar.agrees, Bool.and_eq_true, decide_eq_true_iff, decide_eq_true_iff, le_antisymm_iff]

theorem point_agrees_iff {p q : Point α} : p.agrees q = true ↔ p = q := by
  rw [Point.agrees, Bool.and_eq_true, agrees_iff, agrees_iff, Point.mk.injEq]

/-! ## The nearest edge -/

theorem foldl_lesser (p : Point α) (least : α) (es : List (Point α × Point α)) :
    ∃ d, es.foldl (fun best e => lesser best (edgeDistance p e.1 e.2)) (some least) = some d ∧
      d ≤ least ∧ (∀ e ∈ es, d ≤ edgeDistance p e.1 e.2) ∧
      (d = least ∨ ∃ e ∈ es, d = edgeDistance p e.1 e.2) := by
  induction es generalizing least with
  | nil => exact ⟨least, rfl, le_refl _, by simp, Or.inl rfl⟩
  | cons e es ih =>
    have hlesser : lesser (some least) (edgeDistance p e.1 e.2)
        = some (min (edgeDistance p e.1 e.2) least) := by
      simp [lesser, min_def_lt]
    obtain ⟨d, hd, hle, hall, hmem⟩ := ih (min (edgeDistance p e.1 e.2) least)
    obtain ⟨hedge, hleast⟩ := le_min_iff.1 hle
    refine ⟨d, by rw [List.foldl_cons, hlesser, hd], hleast, List.forall_mem_cons.2 ⟨hedge, hall⟩, ?_⟩
    rcases hmem with rfl | ⟨f, hf, rfl⟩
    · rcases min_choice (edgeDistance p e.1 e.2) least with h | h
      · exact Or.inr ⟨e, by simp, h⟩
      · exact Or.inl h
    · exact Or.inr ⟨f, by simp [hf], rfl⟩

theorem boundaryDistance_least {ring : Ring α} (h : ring.edges ≠ []) (p : Point α) :
    (∃ e ∈ ring.edges, ring.boundaryDistance p = edgeDistance p e.1 e.2) ∧
      ∀ e ∈ ring.edges, ring.boundaryDistance p ≤ edgeDistance p e.1 e.2 := by
  obtain ⟨first, rest, hedges⟩ := List.exists_cons_of_ne_nil h
  have hopen : lesser none (edgeDistance p first.1 first.2)
      = some (edgeDistance p first.1 first.2) := if_pos (ExactSums.bounded _)
  obtain ⟨d, hd, hle, hall, hmem⟩ := foldl_lesser p (edgeDistance p first.1 first.2) rest
  have hdistance : ring.boundaryDistance p = d := by
    rw [boundaryDistance, hedges, List.foldl_cons, hopen, hd]
    rfl
  rw [hdistance, hedges]
  refine ⟨?_, List.forall_mem_cons.2 ⟨hle, hall⟩⟩
  rcases hmem with rfl | ⟨e, he, rfl⟩
  · exact ⟨first, by simp, rfl⟩
  · exact ⟨e, by simp [he], rfl⟩

/-! ## The rectangle around a boundary -/

omit [ExactSums α] in
theorem Box.holds_iff {b : Box α} {p : Point α} : b.holds p = true ↔
    (b.minX ≤ p.x ∧ p.x ≤ b.maxX) ∧ b.minY ≤ p.y ∧ p.y ≤ b.maxY := by
  simp [Box.holds, and_assoc]

theorem Box.holds_extend {b : Box α} {p q : Point α} (h : b.holds q = true ∨ q = p) :
    (b.extend p).holds q = true := by
  have hmin : ∀ x y : α, (if x < y then x else y) = min x y := fun x y => (min_def_lt x y).symm
  have hmax : ∀ x y : α, (if x < y then y else x) = max x y := fun x y => (max_def_lt x y).symm
  simp only [Box.holds_iff, Box.extend, hmin, hmax] at h ⊢
  rcases h with ⟨⟨h1, h2⟩, h3, h4⟩ | rfl
  · exact ⟨⟨min_le_of_right_le h1, le_max_of_le_left h2⟩,
      min_le_of_right_le h3, le_max_of_le_left h4⟩
  · exact ⟨⟨min_le_left _ _, le_max_right _ _⟩, min_le_left _ _, le_max_right _ _⟩

theorem Box.holds_foldl {b : Box α} {points : List (Point α)} {q : Point α}
    (h : b.holds q = true ∨ q ∈ points) : (points.foldl Box.extend b).holds q = true := by
  induction points generalizing b with
  | nil => exact h.resolve_right (by simp)
  | cons p points ih =>
    apply ih
    rcases h with h | h
    · exact Or.inl (Box.holds_extend (Or.inl h))
    · rcases List.mem_cons.1 h with rfl | h
      · exact Or.inl (Box.holds_extend (Or.inr rfl))
      · exact Or.inr h

theorem holds_box {ring : Ring α} {p : Point α} (h : p ∈ ring.vertices) :
    ring.box.holds p = true := by
  unfold box
  cases hv : ring.vertices with
  | nil => simp [hv] at h
  | cons first rest =>
    rw [hv] at h
    apply Box.holds_foldl
    rcases List.mem_cons.1 h with rfl | h
    · exact Or.inl (by simp [Box.holds_iff, Box.ofPoint])
    · exact Or.inr h

end Exact

theorem mem_pairsFrom {α : Type} {p : Point α} {points : List (Point α)} {e : Point α × Point α}
    (h : e ∈ pairsFrom p points) : e.1 ∈ p :: points ∧ e.2 ∈ points := by
  induction points generalizing p with
  | nil => simp [pairsFrom] at h
  | cons q rest ih =>
    rcases List.mem_cons.1 h with rfl | h
    · simp
    · obtain ⟨h1, h2⟩ := ih h
      exact ⟨List.mem_cons_of_mem p h1, List.mem_cons_of_mem q h2⟩

theorem mem_vertices_of_mem_edges {α : Type} {ring : Ring α} {e : Point α × Point α}
    (h : e ∈ ring.edges) : e.1 ∈ ring.vertices ∧ e.2 ∈ ring.vertices := by
  unfold edges at h
  split at h
  · simp at h
  next p rest hv =>
    obtain ⟨h1, h2⟩ := mem_pairsFrom h
    exact ⟨hv ▸ h1, hv ▸ List.mem_cons_of_mem p h2⟩

end Ring

/-! ## Places on an edge -/

namespace Point

def between (a b : Point ℝ) (t : ℝ) : Point ℝ := ⟨a.x + t * (b.x - a.x), a.y + t * (b.y - a.y)⟩

theorem distance_eq (p q : Point ℝ) :
    p.distance q = √((p.x - q.x) * (p.x - q.x) + (p.y - q.y) * (p.y - q.y)) := rfl

theorem distance_le {p q r : Point ℝ} (hx : |p.x - q.x| ≤ |p.x - r.x|)
    (hy : |p.y - q.y| ≤ |p.y - r.y|) : p.distance q ≤ p.distance r :=
  Real.sqrt_le_sqrt (add_le_add (abs_le_iff_mul_self_le.1 hx) (abs_le_iff_mul_self_le.1 hy))

end Point

namespace Ring

open Point

theorem magnitude_eq_abs (x : ℝ) : Scalar.magnitude x = |x| := by
  unfold Scalar.magnitude
  split
  next h => exact (abs_of_neg h).symm
  next h => exact (abs_of_nonneg (not_lt.1 h)).symm

/-- How far a point is ahead on the way from one point to another, and how long that way is,
both times the length of the way. -/
def ahead (a b p : Point ℝ) : ℝ := (p.x - a.x) * (b.x - a.x) + (p.y - a.y) * (b.y - a.y)

theorem distance_between (p a b : Point ℝ) (t : ℝ) : p.distance (between a b t)
    = √(ahead a p p - 2 * t * ahead a b p + t * t * ahead a b b) := by
  rw [distance_eq]
  congr 1
  simp only [between, ahead]
  ring

theorem ahead_self_pos {a b : Point ℝ} (h : a ≠ b) : 0 < ahead a b b := by
  have hne : b.x - a.x ≠ 0 ∨ b.y - a.y ≠ 0 := by
    by_contra! hzero
    apply h
    rw [Point.mk.injEq]
    exact ⟨(sub_eq_zero.1 hzero.1).symm, (sub_eq_zero.1 hzero.2).symm⟩
  rcases hne with hx | hy
  · exact add_pos_of_pos_of_nonneg (mul_self_pos.2 hx) (mul_self_nonneg _)
  · exact add_pos_of_nonneg_of_pos (mul_self_nonneg _) (mul_self_pos.2 hy)

theorem distance_foot {p a b : Point ℝ} (h : a ≠ b) :
    |((a.y - p.y) * (b.x - a.x) - (a.x - p.x) * (b.y - a.y)) / ahead a b b| * √(ahead a b b)
      = p.distance (between a b (ahead a b p / ahead a b b)) := by
  have hpos := ahead_self_pos h
  have hlagrange : ((a.y - p.y) * (b.x - a.x) - (a.x - p.x) * (b.y - a.y)) ^ 2
      = ahead a p p * ahead a b b - ahead a b p * ahead a b p := by
    simp only [ahead]
    ring
  rw [distance_between, ← Real.sqrt_sq_eq_abs, ← Real.sqrt_mul (sq_nonneg _), div_pow, hlagrange]
  congr 1
  field_simp
  ring

theorem edgeDistance_eq {p a b : Point ℝ} (h : a ≠ b) : edgeDistance p a b =
    if ahead a b p / ahead a b b ≤ 0 then p.distance (between a b 0)
    else if 1 ≤ ahead a b p / ahead a b b then p.distance (between a b 1)
    else p.distance (between a b (ahead a b p / ahead a b b)) := by
  have hstart : between a b 0 = a := by simp [between]
  have hstop : between a b 1 = b := by simp [between]
  rw [hstart, hstop, ← distance_foot h, ← magnitude_eq_abs]
  exact if_neg (mt point_agrees_iff.1 h)

theorem edgeDistance_least (p a b : Point ℝ) :
    (∃ t, 0 ≤ t ∧ t ≤ 1 ∧ edgeDistance p a b = p.distance (between a b t)) ∧
      ∀ t, 0 ≤ t → t ≤ 1 → edgeDistance p a b ≤ p.distance (between a b t) := by
  by_cases hab : a = b
  · subst hab
    have hedge : edgeDistance p a a = p.distance a := if_pos (point_agrees_iff.2 rfl)
    have hbetween : ∀ t, between a a t = a := by simp [between]
    simp only [hedge, hbetween]
    exact ⟨⟨0, le_refl _, zero_le_one, trivial⟩, fun _ _ _ => le_refl _⟩
  have hpos := ahead_self_pos hab
  rw [edgeDistance_eq hab]
  split
  next hbefore =>
    -- the foot lies before the start, and from there on the places come farther
    refine ⟨⟨0, le_refl _, zero_le_one, rfl⟩, fun t ht _ => ?_⟩
    have hbehind : ahead a b p ≤ 0 := by
      rcases div_nonpos_iff.1 hbefore with h | h
      · exact absurd h.2 (not_le.2 hpos)
      · exact h.1
    rw [distance_between, distance_between]
    apply Real.sqrt_le_sqrt
    linarith [mul_nonneg ht (neg_nonneg.2 hbehind), mul_nonneg (mul_self_nonneg t) hpos.le]
  next hafter =>
    split
    next hbeyond =>
      refine ⟨⟨1, zero_le_one, le_refl _, rfl⟩, fun t _ ht => ?_⟩
      have hpast : ahead a b b ≤ ahead a b p := (one_le_div hpos).1 hbeyond
      rw [distance_between, distance_between]
      apply Real.sqrt_le_sqrt
      linarith [mul_nonneg (sub_nonneg.2 ht) (sub_nonneg.2 hpast),
        mul_nonneg (mul_self_nonneg (1 - t)) hpos.le]
    next hwithin =>
      refine ⟨⟨_, (not_le.1 hafter).le, (not_le.1 hwithin).le, rfl⟩, fun t _ _ => ?_⟩
      rw [distance_between, distance_between]
      apply Real.sqrt_le_sqrt
      have hsquare : ahead a p p - 2 * t * ahead a b p + t * t * ahead a b b
          - (ahead a p p - 2 * (ahead a b p / ahead a b b) * ahead a b p
            + ahead a b p / ahead a b b * (ahead a b p / ahead a b b) * ahead a b b)
          = ahead a b b * (t - ahead a b p / ahead a b b) ^ 2 := by
        field_simp
        ring
      linarith [mul_nonneg hpos.le (sq_nonneg (t - ahead a b p / ahead a b b))]

/-! ## Places in a rectangle -/

theorem exists_share {lo c hi : ℝ} (h : lo ≤ c ∧ c ≤ hi) :
    ∃ t, 0 ≤ t ∧ t ≤ 1 ∧ c = lo + t * (hi - lo) ∧ c = hi + (1 - t) * (lo - hi) := by
  by_cases hne : lo = hi
  · exact ⟨0, le_refl _, zero_le_one, by linarith, by linarith⟩
  · have hpos : 0 < hi - lo := sub_pos.2 (lt_of_le_of_ne (h.1.trans h.2) hne)
    have hshare : (c - lo) / (hi - lo) * (hi - lo) = c - lo := div_mul_cancel₀ _ hpos.ne'
    exact ⟨(c - lo) / (hi - lo), div_nonneg (sub_nonneg.2 h.1) hpos.le,
      (div_le_one hpos).2 (by linarith), by linarith, by linarith⟩

theorem between_mem {lo hi x y t : ℝ} (hx : lo ≤ x ∧ x ≤ hi) (hy : lo ≤ y ∧ y ≤ hi)
    (h0 : 0 ≤ t) (h1 : t ≤ 1) : lo ≤ x + t * (y - x) ∧ x + t * (y - x) ≤ hi := by
  have hmix : x + t * (y - x) = (1 - t) * x + t * y := by ring
  rw [hmix]
  constructor
  · linarith [mul_le_mul_of_nonneg_left hx.1 (sub_nonneg.2 h1), mul_le_mul_of_nonneg_left hy.1 h0]
  · linarith [mul_le_mul_of_nonneg_left hx.2 (sub_nonneg.2 h1), mul_le_mul_of_nonneg_left hy.2 h0]

theorem Box.holds_between {b : Box ℝ} {p q : Point ℝ} (hp : b.holds p = true)
    (hq : b.holds q = true) {t : ℝ} (h0 : 0 ≤ t) (h1 : t ≤ 1) :
    b.holds (between p q t) = true := by
  rw [Box.holds_iff] at *
  exact ⟨between_mem hp.1 hq.1 h0 h1, between_mem hp.2 hq.2 h0 h1⟩

def clamp (lo hi x : ℝ) : ℝ := max lo (min x hi)

theorem clamp_mem {lo hi : ℝ} (h : lo ≤ hi) (x : ℝ) : lo ≤ clamp lo hi x ∧ clamp lo hi x ≤ hi :=
  ⟨le_max_left _ _, max_le h (min_le_right _ _)⟩

theorem abs_sub_clamp_le {lo hi c : ℝ} (h : lo ≤ c ∧ c ≤ hi) (x : ℝ) :
    |x - clamp lo hi x| ≤ |x - c| := by
  unfold clamp
  rcases le_total x hi with hx | hx
  · rw [min_eq_left hx]
    rcases le_total lo x with hl | hl
    · simp [max_eq_right hl]
    · rw [max_eq_left hl, abs_of_nonpos (by linarith), abs_of_nonpos (by linarith [h.1])]
      linarith [h.1]
  · rw [min_eq_right hx, max_eq_right (h.1.trans h.2), abs_of_nonneg (by linarith),
      abs_of_nonneg (by linarith [h.2])]
    linarith [h.2]

def Box.clamp (b : Box ℝ) (p : Point ℝ) : Point ℝ :=
  ⟨Ring.clamp b.minX b.maxX p.x, Ring.clamp b.minY b.maxY p.y⟩

theorem Box.distance_clamp_le {b : Box ℝ} {c : Point ℝ} (h : b.holds c = true) (p : Point ℝ) :
    p.distance (b.clamp p) ≤ p.distance c := by
  obtain ⟨hx, hy⟩ := Box.holds_iff.1 h
  exact Point.distance_le (abs_sub_clamp_le hx p.x) (abs_sub_clamp_le hy p.y)

theorem clamp_of_not_mem {lo hi x : ℝ} (h : ¬ (lo ≤ x ∧ x ≤ hi)) (hle : lo ≤ hi) :
    clamp lo hi x = lo ∨ clamp lo hi x = hi := by
  unfold clamp
  by_cases hlo : lo ≤ x
  · have hx : hi ≤ x := (not_le.1 fun hx => h ⟨hlo, hx⟩).le
    exact Or.inr (by rw [min_eq_right hx, max_eq_right hle])
  · exact Or.inl (max_eq_left ((min_le_left x hi).trans (not_le.1 hlo).le))

theorem Box.clamp_mem_edge {b : Box ℝ} (hx : b.minX ≤ b.maxX) (hy : b.minY ≤ b.maxY) {p : Point ℝ}
    (h : ¬ b.holds p = true) :
    ∃ e ∈ b.ring.edges, ∃ t, 0 ≤ t ∧ t ≤ 1 ∧ b.clamp p = between e.1 e.2 t := by
  obtain ⟨s, hs0, hs1, hup, hdown⟩ := exists_share (clamp_mem hy p.y)
  obtain ⟨t, ht0, ht1, hright, hleft⟩ := exists_share (clamp_mem hx p.x)
  rw [Box.holds_iff, not_and_or] at h
  rcases h with h | h
  · rcases clamp_of_not_mem h hx with hside | hside
    · refine ⟨(⟨b.minX, b.maxY⟩, ⟨b.minX, b.minY⟩), by simp [Box.ring, edges, pairsFrom], 1 - s,
        by linarith, by linarith, ?_⟩
      rw [Box.clamp, between, Point.mk.injEq]
      exact ⟨by rw [hside]; ring, hdown⟩
    · refine ⟨(⟨b.maxX, b.minY⟩, ⟨b.maxX, b.maxY⟩), by simp [Box.ring, edges, pairsFrom], s, hs0, hs1, ?_⟩
      rw [Box.clamp, between, Point.mk.injEq]
      exact ⟨by rw [hside]; ring, hup⟩
  · rcases clamp_of_not_mem h hy with hside | hside
    · refine ⟨(⟨b.minX, b.minY⟩, ⟨b.maxX, b.minY⟩), by simp [Box.ring, edges, pairsFrom], t, ht0, ht1, ?_⟩
      rw [Box.clamp, between, Point.mk.injEq]
      exact ⟨hright, by rw [hside]; ring⟩
    · refine ⟨(⟨b.maxX, b.maxY⟩, ⟨b.minX, b.maxY⟩), by simp [Box.ring, edges, pairsFrom], 1 - t,
        by linarith, by linarith, ?_⟩
      rw [Box.clamp, between, Point.mk.injEq]
      exact ⟨hleft, by rw [hside]; ring⟩

/-! ## Inside a rectangle -/

theorem parity_of_touches {p : Point ℝ} {es : List (Point ℝ × Point ℝ)} {odd : Bool}
    (h : ∃ e ∈ es, meeting p e.1 e.2 = .touches) : parity p odd es = true := by
  induction es generalizing odd with
  | nil => simp at h
  | cons e es ih =>
    rw [parity]
    cases hmeeting : meeting p e.1 e.2 with
    | touches => rfl
    | crosses =>
      apply ih
      simpa [hmeeting] using h
    | misses =>
      apply ih
      simpa [hmeeting] using h

theorem meeting_level {p a b : Point ℝ} (ha : a.y = p.y) (hb : b.y = p.y)
    (h : a.x ≤ p.x ∧ p.x ≤ b.x ∨ b.x ≤ p.x ∧ p.x ≤ a.x) : meeting p a b = .touches := by
  have hbeside : ¬ (a.x < p.x ∧ b.x < p.x) := by
    rcases h with h | h
    · exact fun hlt => absurd hlt.2 (not_lt.2 h.2)
    · exact fun hlt => absurd hlt.1 (not_lt.2 h.2)
  simp [meeting, hbeside, point_agrees_iff, agrees_iff, ha, hb, h]

theorem meeting_upright {p a b : Point ℝ} (ha : a.x = p.x) (hb : b.x = p.x)
    (h : a.y < p.y ∧ p.y < b.y ∨ b.y < p.y ∧ p.y < a.y) : meeting p a b = .touches := by
  have hside : Sided.side a b p = 0 := by
    simp [Sided.side, Exact.determinant, ha, hb]
  have hends : (p.y < a.y ∧ b.y ≤ p.y) ∨ (p.y < b.y ∧ a.y ≤ p.y) := by
    rcases h with h | h
    · exact Or.inr ⟨h.2, h.1.le⟩
    · exact Or.inl ⟨h.2, h.1.le⟩
  have hlevel : ¬ (a.y = p.y ∧ b.y = p.y) := by
    rintro ⟨h1, h2⟩
    rcases h with h | h
    · exact absurd h.1 (by linarith)
    · exact absurd h.1 (by linarith)
  simp [meeting, point_agrees_iff, agrees_iff, ha, hb, hside, hends, hlevel]

theorem meeting_right {p a b : Point ℝ} (ha : p.x < a.x) (hb : b.x = a.x) (hay : a.y < p.y)
    (hby : p.y < b.y) : meeting p a b = .crosses := by
  have hside : Sided.side a b p = 1 := by
    have hpos : 0 < Exact.determinant a b p := by
      rw [Exact.determinant, hb]
      linarith [mul_pos (sub_pos.2 (hay.trans hby)) (sub_pos.2 ha)]
    simp [Sided.side, sign_pos hpos]
  have hne : p ≠ b := by
    rintro rfl
    exact absurd hby (lt_irrefl _)
  simp [meeting, point_agrees_iff, agrees_iff, hne, hb, hside, ha.le, hay.ne, hby, hay.le,
    hay.trans hby]

theorem meeting_right_falling {p a b : Point ℝ} (ha : p.x < a.x) (hb : b.x = a.x)
    (hay : p.y < a.y) (hby : b.y < p.y) : meeting p a b = .crosses := by
  have hside : Sided.side a b p = -1 := by
    have hneg : Exact.determinant a b p < 0 := by
      rw [Exact.determinant, hb]
      linarith [mul_pos (sub_pos.2 (hby.trans hay)) (sub_pos.2 ha)]
    simp [Sided.side, sign_neg hneg]
  have hne : p ≠ b := by
    rintro rfl
    exact absurd hby (lt_irrefl _)
  simp [meeting, point_agrees_iff, agrees_iff, hne, hb, hside, ha.le, hay.ne', hay, hby.le,
    (hby.trans hay).le]

theorem meeting_off_level {p a b : Point ℝ} (h : p.y < a.y ∧ p.y < b.y ∨ a.y < p.y ∧ b.y < p.y) :
    meeting p a b = .misses := by
  have hlevel : ¬ (a.y = p.y ∧ b.y = p.y) := by
    rintro ⟨h1, h2⟩
    rcases h with h | h
    · exact absurd h.1 (by linarith)
    · exact absurd h.1 (by linarith)
  have hne : p ≠ b := by
    rintro rfl
    rcases h with h | h
    · exact absurd h.2 (lt_irrefl _)
    · exact absurd h.2 (lt_irrefl _)
  have hends : ¬ ((p.y < a.y ∧ b.y ≤ p.y) ∨ (p.y < b.y ∧ a.y ≤ p.y)) := by
    rcases h with h | h
    · rintro (hcross | hcross)
      · exact absurd h.2 (not_lt.2 hcross.2)
      · exact absurd h.1 (not_lt.2 hcross.2)
    · rintro (hcross | hcross)
      · exact absurd h.1 (not_lt.2 hcross.1.le)
      · exact absurd h.2 (not_lt.2 hcross.1.le)
  simp [meeting, point_agrees_iff, agrees_iff, hne, hlevel, hends]

theorem meeting_left {p a b : Point ℝ} (ha : a.x < p.x) (hb : b.x < p.x) :
    meeting p a b = .misses := by
  simp [meeting, ha, hb]

/-- A rectangle contains what it holds: on its border an edge is touched, and inside the ray
crosses the right edge alone. -/
theorem Box.contains_ring {b : Box ℝ} {p : Point ℝ} (h : b.holds p = true) :
    b.ring.contains p = true := by
  have hcorner : ∀ q ∈ b.ring.vertices, b.ring.box.holds q = true := fun q hq => holds_box hq
  obtain ⟨⟨hx0, hx1⟩, hy0, hy1⟩ := Box.holds_iff.1 h
  have hlow := Box.holds_iff.1 (hcorner ⟨b.minX, b.minY⟩ (by simp [Box.ring]))
  have hhigh := Box.holds_iff.1 (hcorner ⟨b.maxX, b.maxY⟩ (by simp [Box.ring]))
  have hbox : b.ring.box.holds p = true := Box.holds_iff.2
    ⟨⟨hlow.1.1.trans hx0, hx1.trans hhigh.1.2⟩, hlow.2.1.trans hy0, hy1.trans hhigh.2.2⟩
  have hfinite : p.isFinite = true := rfl
  rw [contains, hfinite, hbox, Bool.true_and, Bool.true_and]
  have hedges : b.ring.edges = [(⟨b.maxX, b.minY⟩, ⟨b.maxX, b.maxY⟩),
      (⟨b.maxX, b.maxY⟩, ⟨b.minX, b.maxY⟩), (⟨b.minX, b.maxY⟩, ⟨b.minX, b.minY⟩),
      (⟨b.minX, b.minY⟩, ⟨b.maxX, b.minY⟩)] := rfl
  rcases hy0.eq_or_lt with hy | hy0
  · exact parity_of_touches ⟨(⟨b.minX, b.minY⟩, ⟨b.maxX, b.minY⟩), by simp [hedges],
      meeting_level hy hy (Or.inl ⟨hx0, hx1⟩)⟩
  rcases hy1.eq_or_lt with hy | hy1
  · exact parity_of_touches ⟨(⟨b.maxX, b.maxY⟩, ⟨b.minX, b.maxY⟩), by simp [hedges],
      meeting_level hy.symm hy.symm (Or.inr ⟨hx0, hx1⟩)⟩
  rcases hx0.eq_or_lt with hx | hx0
  · exact parity_of_touches ⟨(⟨b.minX, b.maxY⟩, ⟨b.minX, b.minY⟩), by simp [hedges],
      meeting_upright hx hx (Or.inr ⟨hy0, hy1⟩)⟩
  rcases hx1.eq_or_lt with hx | hx1
  · exact parity_of_touches ⟨(⟨b.maxX, b.minY⟩, ⟨b.maxX, b.maxY⟩), by simp [hedges],
      meeting_upright hx.symm hx.symm (Or.inl ⟨hy0, hy1⟩)⟩
  have hright : meeting p ⟨b.maxX, b.minY⟩ ⟨b.maxX, b.maxY⟩ = .crosses :=
    meeting_right hx1 rfl hy0 hy1
  have htop : meeting p ⟨b.maxX, b.maxY⟩ ⟨b.minX, b.maxY⟩ = .misses :=
    meeting_off_level (Or.inl ⟨hy1, hy1⟩)
  have hleft : meeting p ⟨b.minX, b.maxY⟩ ⟨b.minX, b.minY⟩ = .misses := meeting_left hx0 hx0
  have hbottom : meeting p ⟨b.minX, b.minY⟩ ⟨b.maxX, b.minY⟩ = .misses :=
    meeting_off_level (Or.inr ⟨hy0, hy0⟩)
  simp [hedges, parity, hright, htop, hleft, hbottom]

theorem contains_level {ring : Ring ℝ} {left right bottom top : ℝ} (h : ring.vertices =
      [⟨left, top⟩, ⟨right, top⟩, ⟨right, bottom⟩, ⟨left, bottom⟩, ⟨left, top⟩]) {p : Point ℝ}
    (hx : left < p.x ∧ p.x < right) (hy : bottom < p.y ∧ p.y < top) : ring.contains p = true := by
  have hcorner : ∀ q ∈ ring.vertices, ring.box.holds q = true := fun q hq => holds_box hq
  have hhigh := Box.holds_iff.1 (hcorner ⟨left, top⟩ (by simp [h]))
  have hlow := Box.holds_iff.1 (hcorner ⟨right, bottom⟩ (by simp [h]))
  have hbox : ring.box.holds p = true := Box.holds_iff.2
    ⟨⟨hhigh.1.1.trans hx.1.le, hx.2.le.trans hlow.1.2⟩,
      hlow.2.1.trans hy.1.le, hy.2.le.trans hhigh.2.2⟩
  have habove : meeting p ⟨left, top⟩ ⟨right, top⟩ = .misses :=
    meeting_off_level (Or.inl ⟨hy.2, hy.2⟩)
  have hright : meeting p ⟨right, top⟩ ⟨right, bottom⟩ = .crosses :=
    meeting_right_falling hx.2 rfl hy.2 hy.1
  have hbelow : meeting p ⟨right, bottom⟩ ⟨left, bottom⟩ = .misses :=
    meeting_off_level (Or.inr ⟨hy.1, hy.1⟩)
  have hleft : meeting p ⟨left, bottom⟩ ⟨left, top⟩ = .misses := meeting_left hx.1 hx.1
  have hfinite : p.isFinite = true := rfl
  rw [contains, hfinite, hbox, edges, h]
  simp [pairsFrom, parity, habove, hright, hbelow, hleft]

/-! ## Distances to rectangles -/

theorem distance_box_le {ring : Ring ℝ} (h : ring.edges ≠ []) (p : Point ℝ) :
    ring.box.ring.distance p ≤ ring.distance p := by
  by_cases hbox : ring.box.holds p = true
  · have hzero : ring.box.ring.distance p = 0 := if_pos (Box.contains_ring hbox)
    rw [hzero]
    exact distance_nonneg ring p
  have hout : ¬ ring.contains p = true := by
    intro hin
    simp only [contains, Bool.and_eq_true] at hin
    exact hbox hin.1.2
  obtain ⟨⟨e, he, hnearest⟩, -⟩ := boundaryDistance_least h p
  obtain ⟨⟨t, ht0, ht1, hplace⟩, -⟩ := edgeDistance_least p e.1 e.2
  obtain ⟨hstart, hstop⟩ := mem_vertices_of_mem_edges he
  have hheld := Box.holds_between (holds_box hstart) (holds_box hstop) ht0 ht1
  obtain ⟨⟨hx0, hx1⟩, hy0, hy1⟩ := Box.holds_iff.1 hheld
  obtain ⟨f, hf, s, hs0, hs1, hclamp⟩ := Box.clamp_mem_edge (hx0.trans hx1) (hy0.trans hy1) hbox
  have hbound : ring.box.ring.distance p ≤ edgeDistance p f.1 f.2 := by
    unfold distance
    split
    · exact not_lt.1 (edgeDistance_not_neg p f.1 f.2)
    · exact (boundaryDistance_least (List.ne_nil_of_mem hf) p).2 f hf
  calc ring.box.ring.distance p
      ≤ edgeDistance p f.1 f.2 := hbound
    _ ≤ p.distance (between f.1 f.2 s) := (edgeDistance_least p f.1 f.2).2 s hs0 hs1
    _ = p.distance (ring.box.clamp p) := by rw [hclamp]
    _ ≤ p.distance (between e.1 e.2 t) := Box.distance_clamp_le hheld p
    _ = ring.boundaryDistance p := by rw [hnearest, hplace]
    _ = ring.distance p := (if_neg hout).symm

end Ring

end LaneRoute
