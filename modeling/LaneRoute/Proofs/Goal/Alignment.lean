import LaneRoute.Proofs.Geometry.Headings
import LaneRoute.Proofs.Geometry.StraightLines
import LaneRoute.Proofs.Goal.Clearance
import LaneRoute.Proofs.Network.Validation

/-!
# Samples and headings of goals

A goal that is moved onto its lane gets the nearest sample of the centerline and the heading of its
nearest piece, and each is looked for without the other. The sample is an end of the piece unless a
sample of another part of the lane is as near as the nearer end. In exact arithmetic the sample is
not much farther than the piece in any case.
-/

set_option autoImplicit false

namespace LaneRoute

open Scalar

namespace Polyline

variable {α : Type} [Scalar α]

def Foot.heading (f : Foot α) : α := atan2 (f.stop.y - f.start.y) (f.stop.x - f.start.x)

/-- A heading is that of a piece which has the vertex with an index as one of its two ends. -/
def HeadsAlong (line : Polyline α) (i : Nat) (heading : α) : Prop :=
  ∃ k a b, IsPiece line k a b ∧ (i = k ∨ i = k + 1) ∧ heading = atan2 (b.y - a.y) (b.x - a.x)

/-- There are pieces, and how far the vertices and the pieces are from a point can be measured. -/
structure Measured (p : Point α) (line : Polyline α) : Prop where
  pieces : 2 ≤ List.length line
  vertices : ∀ v ∈ line, isNumber (reach p v) = true
  feet : ∀ f ∈ feet p line, isBounded f.distance = true

theorem exists_isNearestFoot [OrderedNumbers α] {p : Point α} {line : Polyline α}
    (h : Measured p line) : ∃ k f, IsNearestFoot p line k f ∧ headingAt line p = f.heading := by
  obtain ⟨f, hf, hfirst⟩ := exists_foot_of_bounded h.pieces h.feet
  obtain ⟨k, hk⟩ := isNearestFoot_of_isFirstLeast
    (fun g hg => OrderedNumbers.isNumber_of_isBounded _ (h.feet g hg)) hfirst
  refine ⟨k, f, hk, ?_⟩
  rw [headingAt, hf]
  rfl

end Polyline

namespace RoadNetwork

open Polyline

theorem exists_segmentUnder {net : RoadNetwork ℝ} {p : Pose ℝ} (hon : net.LiesOn p) :
    ∃ s ∈ net.segments, net.segmentUnder? p = some s := by
  obtain ⟨s, hs⟩ := Option.ne_none_iff_exists'.1 (mt segmentUnder?_eq_none_iff.1 (not_not.2 hon))
  exact ⟨s, (closestWithin?_mem hs).1, hs⟩

/-- A pose on a segment comes beside the first of the nearest samples of the centerline, and gets
the heading of the first of the nearest pieces. The sample is an end of this piece if and only if no
sample is nearer than the nearer end and none before the piece is as near. In the plane all can be
measured; the sample is not much farther away than the centerline, and on a straight lane it always
is an end of the nearest piece. -/
theorem refineLateral_nearest {α : Type} [Sided α] [OrderedNumbers α] {net : RoadNetwork α}
    {p : Pose α} {s : Segment α} {line : Polyline α} {resolution : α}
    (hs : net.segmentUnder? p = some s) (hline : resample s.center resolution = .ok line)
    (hmeasured : Measured p.point line) (vehicle : Vehicle α) :
    (∃ i v k f, IsNearestVertex p.point line i v ∧ IsNearestFoot p.point line k f ∧
      net.refineLateral vehicle resolution p = .ok (onLane v f.heading vehicle.lateralOffset) ∧
      (i = k ∨ i = k + 1 ↔ EndsNearest p.point line k f.start f.stop) ∧
      (EndsNearest p.point line k f.start f.stop → HeadsAlong line i f.heading)) ∧
    ∀ (plane : RoadNetwork ℝ) (q : Pose ℝ) (width : ℝ), plane.Accepted → 0 < width →
      plane.LiesOn q → ∃ s fine, plane.segmentUnder? q = some s ∧
        resample s.center width = .ok fine ∧ Measured q.point fine ∧
        ∀ i v k f, IsNearestVertex q.point fine i v → IsNearestFoot q.point fine k f →
          Polyline.IsNearest q.point fine k f ∧
          q.point.distance v.flat ≤ √(f.distance ^ 2 + (width / 2) ^ 2) ∧
          (Straight s.center → EndsNearest q.point fine k f.start f.stop) := by
  refine ⟨?_, fun plane q width ha hwidth hon => ?_⟩
  · have hne : line ≠ [] := List.ne_nil_of_length_pos (Nat.zero_lt_of_lt hmeasured.pieces)
    obtain ⟨i, v, hi, hv⟩ := exists_nearestIndex hne hmeasured.vertices
    obtain ⟨k, f, hf, hheading⟩ := exists_isNearestFoot hmeasured
    have hends := hv.isEnd_iff hf.piece
    refine ⟨i, v, k, f, hv, hf, ?_, hends,
      fun h => ⟨k, f.start, f.stop, hf.piece, hends.2 h, rfl⟩⟩
    rw [refineLateral, hs]
    simp only [hline, Except.map, nearestVertex?_eq_some hi hv, hheading]
  · obtain ⟨s, hmem, hs⟩ := exists_segmentUnder hon
    have hlength := ha.length_pos hmem
    obtain ⟨a, rest, fine, hfine⟩ := exists_resampled hlength width
    have hpieces : 2 ≤ List.length (a :: fine) := two_le_length (hfine.planarLength_eq ▸ hlength)
    refine ⟨s, a :: fine, hs, hfine.result,
      ⟨hpieces, fun v _ => ExactSums.isNumber _, fun f _ => ExactSums.bounded _⟩, ?_⟩
    intro i v k f hv hf
    have hnearest := hf.isNearest
    have hstep : step f.start f.stop ≤ width :=
      step_le_of_isChain (hfine.isChain_arcLengths hlength hwidth) hf.piece
    refine ⟨hnearest, hv.distance_le hnearest hstep, fun hstraight => ?_⟩
    obtain ⟨b, c, hstraight⟩ := hfine.straight hstraight
    exact hstraight.endsNearest (hfine.refines.noRepeats hfine.noRepeats) hnearest

/-! ## A lane that turns back -/

def hook : Polyline ℝ := [⟨0, 0, 0⟩, ⟨16, 0, 0⟩, ⟨8, 6, 0⟩]

noncomputable def hookedRoad : Segment ℝ where
  id := 1
  kind := .road
  leftBound := [⟨0, 8, 0⟩, ⟨17, 8, 0⟩]
  rightBound := [⟨0, -1, 0⟩, ⟨17, -1, 0⟩]
  center := hook
  successors := []
  predecessors := []
  left := ⟨none, .ofBool true, .ofBool false⟩
  right := ⟨none, .ofBool true, .ofBool false⟩
  drivable := .ofBool true

noncomputable def hooked : RoadNetwork ℝ := ⟨link [hookedRoad], [], [], 1⟩

theorem planarLength_hook : planarLength hook = 26 := by
  have hback : √((8 - 16) * (8 - 16) + (6 - 0) * (6 - 0) : ℝ) = 10 := by
    rw [Real.sqrt_eq_iff_mul_self_eq (by norm_num) (by norm_num)]
    norm_num
  have hforth : √((16 - 0) * (16 - 0) + (0 - 0) * (0 - 0) : ℝ) = 16 := by
    rw [Real.sqrt_eq_iff_mul_self_eq (by norm_num) (by norm_num)]
    norm_num
  simp only [hook, planarLength, planarLengthFrom, step_eq, hback, hforth]
  norm_num

theorem resample_hook : resample hook 26 = .ok hook := by
  have hchain : NoRepeats hook := by simp [NoRepeats, hook, Vertex.flat]
  exact resample_of_length_le hchain (by rw [← hook, planarLength_hook]; norm_num)
    planarLength_hook.le

theorem accepted_hooked : hooked.Accepted := by
  have hlength : hookedRoad.length = 26 := planarLength_hook
  exact accepted_alone rfl (by rw [hlength]; norm_num) rfl 1

theorem hooked_liesOn {p : Pose ℝ} (hx : 0 < p.x ∧ p.x < 17) (hy : -1 < p.y ∧ p.y < 8) :
    hooked.LiesOn p :=
  ⟨hookedRoad, List.mem_singleton_self hookedRoad, if_pos (contains_of_level rfl hx hy)⟩

theorem hook_cases {i : Nat} {v : Vertex ℝ} (h : hook[i]? = some v) :
    i = 0 ∧ v = ⟨0, 0, 0⟩ ∨ i = 1 ∧ v = ⟨16, 0, 0⟩ ∨ i = 2 ∧ v = ⟨8, 6, 0⟩ := by
  match i, h with
  | 0, h => exact Or.inl ⟨rfl, (Option.some.inj h).symm⟩
  | 1, h => exact Or.inr (Or.inl ⟨rfl, (Option.some.inj h).symm⟩)
  | 2, h => exact Or.inr (Or.inr ⟨rfl, (Option.some.inj h).symm⟩)

theorem endsNearest_hook {k : Nat} {f : Foot ℝ} (h : Polyline.IsNearest ⟨14, 0⟩ hook k f) :
    EndsNearest ⟨14, 0⟩ hook k f.start f.stop := by
  rcases hook_cases h.piece.1 with ⟨rfl, hstart⟩ | ⟨rfl, hstart⟩ | ⟨rfl, hstart⟩
  · obtain hstop : ⟨16, 0, 0⟩ = f.stop := Option.some.inj h.piece.2
    refine ⟨fun w hw => Or.inr ?_, fun j _ hj => absurd hj (Nat.not_lt_zero j)⟩
    obtain ⟨i, hi⟩ := List.mem_iff_getElem?.1 hw
    rw [← hstop, reach_eq_distance, reach_eq_distance, Point.distance_eq, Point.distance_eq]
    rcases hook_cases hi with ⟨-, rfl⟩ | ⟨-, rfl⟩ | ⟨-, rfl⟩ <;>
      exact Real.sqrt_le_sqrt (by norm_num [Vertex.flat])
  · -- the way back does not come through this point
    obtain hstop : ⟨8, 6, 0⟩ = f.stop := Option.some.inj h.piece.2
    have hplace : (⟨14, 0⟩ : Point ℝ) ∈ places hook := by
      refine ⟨0, ⟨0, 0, 0⟩, ⟨16, 0, 0⟩, ⟨rfl, rfl⟩, 7 / 8, by norm_num, by norm_num, ?_⟩
      norm_num [Point.between, Vertex.flat]
    have hnear := h.least _ hplace
    rw [← h.distance, hstart, ← hstop, Point.distance_eq, Point.distance_eq,
      Real.sqrt_le_sqrt_iff (by norm_num)] at hnear
    norm_num [Point.between, Vertex.flat] at hnear
    nlinarith [sq_nonneg (f.share - 4 / 25)]
  · cases h.piece.2

/-- Short of the turn the end of the first piece is the nearest sample. -/
theorem hooked_heads_along : hooked.Accepted ∧ (0 : ℝ) < 26 ∧ hooked.LiesOn ⟨14, 0, 0, 0⟩ ∧
    hooked.segmentUnder? ⟨14, 0, 0, 0⟩ = some hookedRoad ∧
    resample hookedRoad.center 26 = .ok hook ∧ Measured ⟨14, 0⟩ hook ∧
    ∃ (i : Nat) (v : Vertex ℝ) (f : Foot ℝ), IsNearestVertex ⟨14, 0⟩ hook i v ∧
      hooked.refineLateral lopsided 26 ⟨14, 0, 0, 0⟩ =
        .ok (onLane v f.heading lopsided.lateralOffset) ∧ HeadsAlong hook i f.heading ∧
      Point.distance ⟨14, 0⟩ v.flat ≤ √(f.distance ^ 2 + (26 / 2) ^ 2) := by
  have hpositive : (0 : ℝ) < 26 := by norm_num
  have hon : hooked.LiesOn ⟨14, 0, 0, 0⟩ := hooked_liesOn (by norm_num) (by norm_num)
  obtain ⟨s, hmem, hs⟩ := exists_segmentUnder hon
  obtain rfl : s = hookedRoad := List.mem_singleton.1 hmem
  have hmeasured : Measured ⟨14, 0⟩ hook :=
    ⟨by simp [hook], fun v _ => ExactSums.isNumber _, fun f _ => ExactSums.bounded _⟩
  obtain ⟨⟨i, v, k, f, hv, hf, hmoved, -, halong⟩, hplane⟩ :=
    refineLateral_nearest hs resample_hook hmeasured lopsided
  obtain ⟨t, line, ht, hline, -, hnear⟩ := hplane hooked _ 26 accepted_hooked hpositive hon
  obtain rfl := Option.some.inj (hs.symm.trans ht)
  obtain rfl := Except.ok.inj (resample_hook.symm.trans hline)
  obtain ⟨hnearest, hdistance, -⟩ := hnear i v k f hv hf
  exact ⟨accepted_hooked, hpositive, hon, hs, resample_hook, hmeasured, i, v, f, hv, hmoved,
    halong (endsNearest_hook hnearest), hdistance⟩

theorem nearestIndex_hook : nearestIndex? ⟨8, 2⟩ hook = some 2 := by
  have hne : hook ≠ [] := List.cons_ne_nil _ _
  obtain ⟨i, v, hi, hv⟩ := exists_nearestIndex hne
    fun w _ => ExactSums.isNumber (reach (⟨8, 2⟩ : Point ℝ) w)
  have hnear := hv.least ⟨8, 6, 0⟩ (by simp [hook])
  rw [reach_eq_distance, reach_eq_distance, Point.distance_eq, Point.distance_eq,
    Real.sqrt_le_sqrt_iff (by norm_num [Vertex.flat])] at hnear
  rcases hook_cases hv.vertex with ⟨-, rfl⟩ | ⟨-, rfl⟩ | ⟨rfl, -⟩
  · norm_num [Vertex.flat] at hnear
  · norm_num [Vertex.flat] at hnear
  · exact hi

theorem headingAt_hook : headingAt hook ⟨8, 2⟩ = 0 := by
  have hfirst : IsFirstLeast (comesNearer ⟨8, 2⟩) (flatPieces hook) (⟨0, 0⟩, ⟨16, 0⟩) := by
    refine ⟨[], [(⟨16, 0⟩, ⟨8, 6⟩)], rfl, by simp, fun e he => decide_eq_false ?_⟩
    obtain rfl := List.mem_singleton.1 he
    have hbelow := (Ring.edgeDistance_least ⟨8, 2⟩ ⟨0, 0⟩ ⟨16, 0⟩).2 (1 / 2) (by norm_num)
      (by norm_num)
    obtain ⟨⟨t, -, -, hback⟩, -⟩ := Ring.edgeDistance_least ⟨8, 2⟩ ⟨16, 0⟩ ⟨8, 6⟩
    refine not_lt.2 (hbelow.trans ?_)
    rw [hback, Point.distance_eq, Point.distance_eq]
    refine Real.sqrt_le_sqrt ?_
    norm_num [Point.between]
    nlinarith [sq_nonneg (t - 19 / 25)]
  have hlevel : (⟨16 - 0, 0 - 0⟩ : ℂ) = (16 : ℝ) := by
    apply Complex.ext <;> simp
  rw [headingAt_eq hfirst]
  exact (congrArg Complex.arg hlevel).trans (Complex.arg_ofReal_of_nonneg (by norm_num))

theorem not_headsAlong_hook : ¬ HeadsAlong hook 2 0 := by
  rintro ⟨k, a, b, ⟨ha, hb⟩, hend, hzero⟩
  obtain rfl : k = 1 := by
    rcases hook_cases hb with ⟨hk, -⟩ | ⟨hk, -⟩ | ⟨hk, -⟩ <;> omega
  obtain rfl : ⟨16, 0, 0⟩ = a := Option.some.inj ha
  obtain rfl : ⟨8, 6, 0⟩ = b := Option.some.inj hb
  have hlevel := (Complex.arg_eq_zero_iff.1 hzero.symm).2
  norm_num [Vertex.flat] at hlevel

/-- Above the first piece the sample after the turn is the nearest one. -/
theorem hooked_heads_apart : hooked.Accepted ∧ (0 : ℝ) < 26 ∧ hooked.LiesOn ⟨8, 2, 0, 0⟩ ∧
    hooked.segmentUnder? ⟨8, 2, 0, 0⟩ = some hookedRoad ∧
    resample hookedRoad.center 26 = .ok hook ∧ nearestIndex? ⟨8, 2⟩ hook = some 2 ∧
    hooked.refineLateral lopsided 26 ⟨8, 2, 0, 0⟩ =
      .ok (onLane ⟨8, 6, 0⟩ 0 lopsided.lateralOffset) ∧ ¬ HeadsAlong hook 2 0 := by
  have hpositive : (0 : ℝ) < 26 := by norm_num
  have hon : hooked.LiesOn ⟨8, 2, 0, 0⟩ := hooked_liesOn (by norm_num) (by norm_num)
  obtain ⟨s, hmem, hs⟩ := exists_segmentUnder hon
  obtain rfl : s = hookedRoad := List.mem_singleton.1 hmem
  refine ⟨accepted_hooked, hpositive, hon, hs, resample_hook, nearestIndex_hook, ?_,
    not_headsAlong_hook⟩
  have hvertex : nearestVertex? hook ⟨8, 2⟩ = some ⟨8, 6, 0⟩ := by
    rw [nearestVertex?, nearestIndex_hook]
    rfl
  rw [refineLateral, hs]
  simp only [hookedRoad, resample_hook, Except.map, Pose.point, hvertex, headingAt_hook]

end RoadNetwork

end LaneRoute
