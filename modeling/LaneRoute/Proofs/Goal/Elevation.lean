import LaneRoute.Proofs.Geometry.Resampling
import LaneRoute.Proofs.Network.Validation
import LaneRoute.Goal.Refine

/-!
# Elevations of goals

The elevation that a pose gets from a segment is that of the place of the centerline which is
nearest to it, and of several such places the one that is passed first. How finely the centerline
is sampled makes no difference, and a pose that has its elevation keeps it.
-/

set_option autoImplicit false

namespace LaneRoute.RoadNetwork

open Polyline

/-- Whatever the resolution, a pose gets the elevation of its projection onto the centerline and
nothing else changes, and then its elevation stays at every resolution. -/
theorem refineElevation_projects {net : RoadNetwork ℝ} (ha : net.Accepted) {s : Segment ℝ}
    (hs : s ∈ net.segments) (hcenter : Stepless s.center) (p : Pose ℝ) :
    ∃ v, project? s.center p.point = some v ∧ IsFirstNearest p.point s.center v ∧
      ∀ resolution, 0 < resolution →
        net.refineElevation resolution p s.id = .ok { p with z := v.z } ∧
        net.refineElevation resolution { p with z := v.z } s.id = .ok { p with z := v.z } := by
  obtain ⟨v, hproject, hfirst, hfine⟩ := exists_projection (ha.length_pos hs) hcenter p.point
  have hknown : net.segment s.id = .ok s :=
    segment_eq_ok.2 (ha.segment?_eq_some.2 ⟨hs, rfl⟩)
  have hrefine : ∀ resolution, ∀ q : Pose ℝ, q.point = p.point →
      net.refineElevation resolution q s.id = .ok { q with z := v.z } := by
    intro resolution q hq
    obtain ⟨fine, hresample, hv⟩ := hfine resolution
    refine Fallible.bind_eq_ok.2 ⟨s, hknown, Fallible.bind_eq_ok.2 ⟨fine, hresample, ?_⟩⟩
    rw [hq, hv]
    rfl
  exact ⟨v, hproject, hfirst, fun resolution _ => ⟨hrefine resolution p rfl, hrefine resolution _ rfl⟩⟩

/-! ## On a climb -/

noncomputable def climbingRoad : Segment ℝ where
  id := 1
  kind := .road
  leftBound := [⟨-1, 1, 0⟩, ⟨0, 1, 1⟩, ⟨1, 1, 1⟩]
  rightBound := [⟨-1, -1, 0⟩, ⟨0, -1, 1⟩, ⟨1, -1, 1⟩]
  center := climb
  successors := []
  predecessors := []
  left := ⟨none, .ofBool true, .ofBool false⟩
  right := ⟨none, .ofBool true, .ofBool false⟩
  drivable := .ofBool true

noncomputable def climbing : RoadNetwork ℝ := ⟨link [climbingRoad], [], [], 1⟩

theorem accepted_climbing : climbing.Accepted := by
  have hlength : 0 < climbingRoad.length :=
    planarLength_pos (v := ⟨-1, 0, 0⟩) (w := ⟨0, 0, 1⟩) (by simp [climbingRoad, climb])
      (by simp [climbingRoad, climb]) (by simp [Vertex.flat])
  exact accepted_alone rfl (not_le.2 hlength) rfl 1

theorem passes_climb {s : ℝ} {v : Vertex ℝ} (h : Passes climb s v) :
    v.y = 0 ∧ (v.x < 0 → v.z = v.x + 1) := by
  rcases h with ⟨t, -, -, -, rfl⟩ | ⟨t, -, -, -, rfl⟩ | ⟨t, h0, -, -, rfl⟩ | ⟨-, rfl⟩
  · simp [vertexBetween]
  · simp [vertexBetween]
  · exact ⟨by simp [vertexBetween], fun hlt => absurd hlt (not_lt.2 (by simpa [vertexBetween]))⟩
  · norm_num

/-- Beside the middle of the climb a pose gets half of its height. -/
theorem climbing_elevation : climbing.Accepted ∧ climbingRoad ∈ climbing.segments ∧
    Stepless climbingRoad.center ∧ (0 : ℝ) < 5 ∧
    climbing.refineElevation 5 ⟨-1 / 2, 1, 7, 0⟩ 1 = .ok ⟨-1 / 2, 1, 1 / 2, 0⟩ := by
  have hmem : climbingRoad ∈ climbing.segments := List.mem_singleton_self climbingRoad
  have hpositive : (0 : ℝ) < 5 := by norm_num
  refine ⟨accepted_climbing, hmem, stepless_climb, hpositive, ?_⟩
  obtain ⟨v, -, ⟨s, hs, hleast⟩, hrefine⟩ :=
    refineElevation_projects accepted_climbing hmem stepless_climb ⟨-1 / 2, 1, 7, 0⟩
  have hmiddle : Passes climb (1 / 2) ⟨-1 / 2, 0, 1 / 2⟩ := by
    refine Or.inl ⟨1 / 2, by norm_num, by norm_num, ?_, by norm_num [vertexBetween]⟩
    have hstep : step (⟨-1, 0, 0⟩ : Vertex ℝ) ⟨0, 0, 1⟩ = 1 := by simp [step_eq]
    rw [hstep]
    norm_num
  obtain ⟨hy, hz⟩ := passes_climb hs
  have hnear := (hleast _ _ hmiddle).1
  rw [Point.distance_eq, Point.distance_eq,
    Real.sqrt_le_sqrt_iff (add_nonneg (mul_self_nonneg _) (mul_self_nonneg _))] at hnear
  norm_num [Pose.point, Vertex.flat, hy] at hnear
  have hx : v.x = -1 / 2 := by
    have hsame := mul_self_eq_zero.1 (le_antisymm hnear (mul_self_nonneg _))
    linarith
  have hheight : v.z = 1 / 2 := by
    rw [hz (by rw [hx]; norm_num), hx]
    norm_num
  have hmoved := (hrefine 5 hpositive).1
  rw [hheight] at hmoved
  exact hmoved

end LaneRoute.RoadNetwork
