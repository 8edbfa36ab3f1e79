import LaneRoute.Proofs.Geometry.NearestVertices
import LaneRoute.Proofs.Geometry.Resampling
import LaneRoute.Proofs.Network.NearestRoad
import LaneRoute.Goal.Refine

/-!
# Clearances beside goals

A goal that is moved onto its lane stands beside the nearest sample of the centerline, neither ahead
of it nor behind. The outline of the vehicle then reaches equally far to both sides of the line
through the sample in the direction of the lane, however much its overhangs differ.
-/

set_option autoImplicit false

namespace LaneRoute

open Scalar

/-! ## Beside a line -/

noncomputable def leftOf (v : Vertex ℝ) (heading : ℝ) (q : Point ℝ) : ℝ :=
  (q.y - v.y) * cos heading - (q.x - v.x) * sin heading

noncomputable def aheadOf (v : Vertex ℝ) (heading : ℝ) (q : Point ℝ) : ℝ :=
  (q.x - v.x) * cos heading + (q.y - v.y) * sin heading

def lineThrough (v : Vertex ℝ) (heading : ℝ) : Set (Point ℝ) :=
  {q | ∃ t, q = ⟨v.x + t * cos heading, v.y + t * sin heading⟩}

theorem sin_mul_self_add_cos_mul_self (heading : ℝ) :
    (sin heading : ℝ) * sin heading + cos heading * cos heading = 1 := by
  have h := Real.sin_sq_add_cos_sq heading
  rwa [sq, sq] at h

theorem isLeast_distance (v : Vertex ℝ) (heading : ℝ) (w : Point ℝ) :
    IsLeast (w.distance '' lineThrough v heading) |leftOf v heading w| := by
  have hunit := sin_mul_self_add_cos_mul_self heading
  have hdistance : ∀ t, w.distance ⟨v.x + t * cos heading, v.y + t * sin heading⟩ =
      √(leftOf v heading w ^ 2 + (aheadOf v heading w - t) ^ 2) := by
    intro t
    rw [Point.distance_eq]
    congr 1
    simp only [leftOf, aheadOf]
    linear_combination (t ^ 2 - (w.x - v.x) ^ 2 - (w.y - v.y) ^ 2) * hunit
  constructor
  · refine ⟨_, ⟨aheadOf v heading w, rfl⟩, ?_⟩
    rw [hdistance, sub_self, zero_pow two_ne_zero, add_zero, Real.sqrt_sq_eq_abs]
  · rintro _ ⟨_, ⟨t, rfl⟩, rfl⟩
    rw [hdistance, ← Real.sqrt_sq_eq_abs]
    exact Real.sqrt_le_sqrt (le_add_of_nonneg_right (sq_nonneg _))

/-! ## The outline of a vehicle on its lane -/

open RoadNetwork

theorem aheadOf_onLane (v : Vertex ℝ) (heading shift : ℝ) :
    aheadOf v heading (onLane v heading shift).point = 0 := by
  simp only [aheadOf, onLane, Pose.point]
  ring

/-- The places around a vehicle on its lane are as far to the left of the line through the sample as
they are to the left of the vehicle, and by the shift more. -/
theorem map_leftOf_place (v : Vertex ℝ) (heading shift : ℝ) (points : List (Point ℝ)) :
    ((onLane v heading shift).place points).map (leftOf v heading) =
      points.map fun q => q.y + shift := by
  have hunit := sin_mul_self_add_cos_mul_self heading
  rw [Pose.place, List.map_map]
  refine List.map_congr_left fun q _ => ?_
  simp only [Function.comp_apply, leftOf, onLane]
  linear_combination (q.y + shift) * hunit

theorem map_footprint (vehicle : Vehicle ℝ) :
    (vehicle.footprint 0 0).map (fun q => q.y + vehicle.lateralOffset) =
      [vehicle.width / 2, -(vehicle.width / 2), -(vehicle.width / 2), -(vehicle.width / 2),
        vehicle.width / 2, vehicle.width / 2, vehicle.width / 2] := by
  have htwo : (two : ℝ) = 2 := one_add_one_eq_two
  have hleft : vehicle.leftmost + 0 + vehicle.lateralOffset = vehicle.width / 2 := by
    simp only [Vehicle.leftmost, Vehicle.lateralOffset, Vehicle.width, htwo]
    ring
  have hright : vehicle.rightmost - 0 + vehicle.lateralOffset = -(vehicle.width / 2) := by
    simp only [Vehicle.rightmost, Vehicle.lateralOffset, Vehicle.width, htwo]
    ring
  simp only [Vehicle.footprint, List.map_cons, List.map_nil, hleft, hright]

theorem placeRing_footprint (vehicle : Vehicle ℝ) (q : Pose ℝ) :
    q.placeRing (vehicle.footprint 0 0) = .ok ⟨q.place (vehicle.footprint 0 0)⟩ := by
  have hself : ∀ p : Point ℝ, Point.agrees p p = true := fun p => Ring.point_agrees_iff.2 rfl
  have hfinite : isFinite q.yaw = true := rfl
  simp [Pose.placeRing, hfinite, Vehicle.footprint, Pose.place, Ring.ofPoints, Ring.through, hself]

namespace RoadNetwork

/-! ## Poses on segments -/

def LiesOn (net : RoadNetwork ℝ) (p : Pose ℝ) : Prop :=
  ∃ s ∈ net.segments, s.outline.distance p.point = 0

variable {net : RoadNetwork ℝ} {p : Pose ℝ}

theorem segmentUnder?_eq_none_iff : net.segmentUnder? p = none ↔ ¬ net.LiesOn p := by
  have hadmits : ∀ s : Segment ℝ, (candidate p s).admits (some 0) none = false ↔
      s.outline.distance p.point ≠ 0 := by
    intro s
    have hnonneg := Ring.distance_nonneg s.outline p.point
    simp [Candidate.admits, candidate, hnonneg.lt_iff_ne, eq_comm]
  rw [segmentUnder?, closestWithin?_eq_none_iff, LiesOn]
  simp only [hadmits, not_exists, not_and, ne_eq]

theorem nearestVertex?_eq_some {α : Type} [Sided α] {line : Polyline α} {q : Point α} {i : Nat}
    {v : Vertex α} (hi : Polyline.nearestIndex? q line = some i)
    (hv : Polyline.IsNearestVertex q line i v) :
    nearestVertex? line q = some v := by
  rw [nearestVertex?, hi]
  exact hv.vertex

theorem exists_nearestVertex (v : Vertex ℝ) (rest : List (Vertex ℝ)) (q : Point ℝ) :
    ∃ w, nearestVertex? (v :: rest) q = some w := by
  obtain ⟨i, w, hi, hw⟩ := Polyline.exists_nearestIndex (List.cons_ne_nil v rest)
    fun w _ => ExactSums.isNumber (Polyline.reach q w)
  exact ⟨w, nearestVertex?_eq_some hi hw⟩

/-- A pose on no segment stays. One on a segment comes beside the nearest sample of the centerline,
and is turned into the direction of the lane. The left vertices of the vehicle's outline are then to
the left and the right ones to the right of the line through the sample in this direction, and all
of them are half the width of the vehicle away from it. -/
theorem refineLateral_straddles (ha : net.Accepted) (vehicle : Vehicle ℝ) (resolution : ℝ)
    (p : Pose ℝ) :
    (¬ net.LiesOn p → net.refineLateral vehicle resolution p = .ok p) ∧
    (net.LiesOn p → ∃ s line v q ring, net.segmentUnder? p = some s ∧
      Polyline.resample s.center resolution = .ok line ∧ nearestVertex? line p.point = some v ∧
      net.refineLateral vehicle resolution p = .ok q ∧
      q.yaw = Polyline.headingAt line p.point ∧ aheadOf v q.yaw q.point = 0 ∧
      q.placeRing (vehicle.footprint 0 0) = .ok ring ∧
      ring.vertices.map (leftOf v q.yaw) =
        [vehicle.width / 2, -(vehicle.width / 2), -(vehicle.width / 2), -(vehicle.width / 2),
          vehicle.width / 2, vehicle.width / 2, vehicle.width / 2] ∧
      ∀ w ∈ ring.vertices,
        IsLeast (w.distance '' lineThrough v q.yaw) |vehicle.width / 2|) := by
  constructor
  · intro hoff
    rw [refineLateral, segmentUnder?_eq_none_iff.2 hoff]
  · intro hon
    obtain ⟨s, hs⟩ := Option.ne_none_iff_exists'.1 (mt segmentUnder?_eq_none_iff.1 (not_not.2 hon))
    have hmem := (closestWithin?_mem hs).1
    obtain ⟨a, rest, fine, hfine⟩ := Polyline.exists_resampled (ha.length_pos hmem) resolution
    obtain ⟨v, hv⟩ := exists_nearestVertex a fine p.point
    set heading := Polyline.headingAt (a :: fine) p.point
    have hmoved : net.refineLateral vehicle resolution p =
        .ok (onLane v heading vehicle.lateralOffset) := by
      rw [refineLateral, hs]
      simp only [hfine.result, Except.map, hv]
      rfl
    have hsides := (map_leftOf_place v heading vehicle.lateralOffset
      (vehicle.footprint 0 0)).trans (map_footprint vehicle)
    refine ⟨s, a :: fine, v, _, _, hs, hfine.result, hv, hmoved, rfl,
      aheadOf_onLane v heading _, placeRing_footprint vehicle _, hsides, fun w hw => ?_⟩
    have hside : |leftOf v heading w| = |vehicle.width / 2| := by
      have hmember := List.mem_map_of_mem (f := leftOf v heading) hw
      rw [hsides] at hmember
      simp only [List.mem_cons, List.not_mem_nil, or_false] at hmember
      rcases hmember with h | h | h | h | h | h | h <;> simp [h]
    exact hside ▸ isLeast_distance v heading w

/-! ## A vehicle that is wider on the right -/

noncomputable def lopsided : Vehicle ℝ := ⟨1, 1, 1, 1, 0, 1, 1⟩

theorem width_lopsided : lopsided.width / 2 = 1 := by
  norm_num [Vehicle.width, lopsided]

theorem contains_of_level {s : Segment ℝ} {left right bottom top : ℝ}
    (houtline : Segment.outlinePoints s.leftBound s.rightBound =
      [⟨left, top⟩, ⟨right, top⟩, ⟨right, bottom⟩, ⟨left, bottom⟩]) {p : Point ℝ}
    (hx : left < p.x ∧ p.x < right) (hy : bottom < p.y ∧ p.y < top) :
    s.outline.contains p = true := by
  have hopen : Point.agrees (⟨left, top⟩ : Point ℝ) ⟨left, bottom⟩ = false := by
    rw [Bool.eq_false_iff, Ne, Ring.point_agrees_iff]
    exact fun h => (hy.1.trans hy.2).ne' (congrArg Point.y h)
  refine Ring.contains_level ?_ hx hy
  simp [Segment.outline, houtline, Ring.through, hopen]

theorem straightRoad_contains : (straightRoad 1).outline.contains ⟨1 / 4, 1 / 2⟩ = true := by
  have hlevel : Segment.outlinePoints (straightRoad 1).leftBound (straightRoad 1).rightBound =
      [⟨0, 1⟩, ⟨1, 1⟩, ⟨1, -1⟩, ⟨0, -1⟩] := rfl
  exact contains_of_level hlevel (by norm_num) (by norm_num)

/-- On a straight road the sides of the vehicle come one metre to the left and to the right of the
line through the sample. -/
theorem twins_straddled : twins.Accepted ∧ twins.LiesOn ⟨1 / 4, 1 / 2, 0, 0⟩ ∧
    ∃ v q ring, twins.refineLateral lopsided 1 ⟨1 / 4, 1 / 2, 0, 0⟩ = .ok q ∧
      q.placeRing (lopsided.footprint 0 0) = .ok ring ∧
      ring.vertices.map (leftOf v q.yaw) = [1, -1, -1, -1, 1, 1, 1] := by
  have hon : twins.LiesOn ⟨1 / 4, 1 / 2, 0, 0⟩ := by
    have hsegments : twins.segments = twinRoads := link_twinRoads
    refine ⟨straightRoad 1, by simp [hsegments, twinRoads], if_pos straightRoad_contains⟩
  obtain ⟨-, hmoved⟩ := refineLateral_straddles accepted_twins lopsided 1 ⟨1 / 4, 1 / 2, 0, 0⟩
  obtain ⟨s, line, v, q, ring, -, -, -, hq, -, -, hring, hsides, -⟩ := hmoved hon
  rw [width_lopsided] at hsides
  exact ⟨accepted_twins, hon, v, q, ring, hq, hring, hsides⟩

end RoadNetwork

end LaneRoute
