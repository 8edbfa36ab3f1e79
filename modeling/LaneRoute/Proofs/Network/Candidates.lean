import LaneRoute.Proofs.Network.Legs
import LaneRoute.Proofs.Network.Nearest

/-!
# Where a path may start and end

Every pose has a road to start from and one to lead to, once there is any road and each of them is
at a finite distance or turned by a finite angle. A goal leads to nearest roads. A start does not
always: roads along which it heads come first, however far they are, so that a start candidate is
nearest among those only.
-/

set_option autoImplicit false

namespace LaneRoute.RoadNetwork

variable {α : Type} [Sided α]

def IsNearest (segments : List (Segment α)) (p : Point α) (s : Segment α) : Prop :=
  s ∈ segments ∧ ∀ t ∈ segments, s.outline.distance p ≤ t.outline.distance p

/-- The roads along which a pose heads: the angle to them is not more than that of a start. -/
def roadsAlong (net : RoadNetwork α) (p : Pose α) : List (Segment α) :=
  net.roads.filter fun s => ¬ startAngle < (candidate p s).angle

/-- The roads that a start is chosen from: those along which it heads or, without any, all. -/
def startRoads (net : RoadNetwork α) (p : Pose α) : List (Segment α) :=
  if (net.roadsAlong p).isEmpty then net.roads else net.roadsAlong p

/-- The roads at a pose along which it heads, the greatest angle not included. -/
def alignedAt (net : RoadNetwork α) (p : Pose α) : List (Segment α) :=
  (net.roadsAt p.point).filter (isAlignedWithin startAngle p)

variable {net : RoadNetwork α} {p : Pose α}

theorem mem_roadsAlong {s : Segment α} :
    s ∈ net.roadsAlong p ↔ s ∈ net.roads ∧ ¬ startAngle < (candidate p s).angle := by
  rw [roadsAlong, List.mem_filter, decide_eq_true_iff]

theorem startRoads_of_mem {s : Segment α} (h : s ∈ net.roadsAlong p) :
    net.startRoads p = net.roadsAlong p := by
  rw [startRoads, if_neg]
  simpa using List.ne_nil_of_mem h

theorem mem_roads_of_mem_startRoads {s : Segment α} (h : s ∈ net.startRoads p) :
    s ∈ net.roads := by
  unfold startRoads at h
  split at h
  · exact h
  · exact (mem_roadsAlong.1 h).1

theorem candidates_of_segments {ids : List Int} {segments chosen : List (Segment α)} {q : Point α}
    (hids : ids = chosen.map (·.id)) (hne : chosen ≠ [])
    (hnearest : ∀ s ∈ chosen, IsNearest segments q s) :
    ids ≠ [] ∧ ∀ id ∈ ids, ∃ s, s.id = id ∧ IsNearest segments q s := by
  subst hids
  refine ⟨by simpa using hne, fun id hid => ?_⟩
  obtain ⟨s, hs, rfl⟩ := List.mem_map.1 hid
  exact ⟨s, rfl, hnearest s hs⟩

theorem startCandidates_of_alignedAt (h : net.alignedAt p ≠ []) :
    net.startCandidates p = (net.alignedAt p).map (·.id) := by
  rw [alignedAt] at h ⊢
  simp [startCandidates, h]

section Rounded

variable [RoundedNumbers α]

theorem exists_nearest {segments : List (Segment α)} (hne : segments ≠ []) {p : Pose α}
    (hbounded : ∀ s ∈ segments, (candidate p s).Bounded) :
    ∃ s, closest? segments p = some s ∧ IsNearest segments p.point s := by
  obtain ⟨t, ht⟩ := List.exists_mem_of_ne_nil _ hne
  obtain ⟨s, hs⟩ := exists_closest ht (hbounded t ht)
  exact ⟨s, hs, closest?_mem hs, fun t ht => closest?_distance_le hs ht (hbounded t ht)⟩

theorem isNearest_of_contains {segments : List (Segment α)} {q : Point α} {s : Segment α}
    (hs : s ∈ segments) (h : s.outline.contains q = true) : IsNearest segments q s := by
  refine ⟨hs, fun t _ => ?_⟩
  rw [Ring.distance_of_contains h]
  exact Ring.distance_nonneg t.outline q

theorem admits_startAngle_iff {c : Candidate α} :
    c.admits none (some startAngle) = true ↔ ¬ startAngle < c.angle := by
  have hmagnitude : Scalar.magnitude (startAngle : α) = startAngle :=
    if_neg RoundedNumbers.eighth_not_neg
  simp [Candidate.admits, hmagnitude]

/-! ## Goals -/

theorem goalCandidates_isNearest (hroads : net.roads ≠ [])
    (hbounded : ∀ s ∈ net.roads, (candidate p s).Bounded) :
    net.goalCandidates p ≠ [] ∧
      ∀ id ∈ net.goalCandidates p, ∃ s, s.id = id ∧ IsNearest net.roads p.point s := by
  by_cases hhere : net.roadsAt p.point = []
  · obtain ⟨s, hclosest, hnearest⟩ := exists_nearest hroads hbounded
    have hcandidates : net.goalCandidates p = [s].map (·.id) := by
      simp [goalCandidates, hhere, hclosest]
    exact candidates_of_segments hcandidates (by simp) (by simpa using hnearest)
  · have hcandidates : net.goalCandidates p = (net.roadsAt p.point).map (·.id) := by
      simp [goalCandidates, hhere]
    refine candidates_of_segments hcandidates hhere fun s hs => ?_
    obtain ⟨hroad, hcontains⟩ := mem_roadsAt.1 hs
    exact isNearest_of_contains hroad hcontains

/-! ## Starts -/

theorem isNearest_of_mem_alignedAt {s : Segment α} (h : s ∈ net.alignedAt p) :
    IsNearest net.roads p.point s ∧ IsNearest (net.startRoads p) p.point s := by
  obtain ⟨hat, haligned⟩ := List.mem_filter.1 h
  obtain ⟨hroad, hcontains⟩ := mem_roadsAt.1 hat
  have hless : (candidate p s).angle < startAngle := of_decide_eq_true haligned
  have halong : s ∈ net.roadsAlong p := by
    refine mem_roadsAlong.2 ⟨hroad, fun hmore => ?_⟩
    exact ((OrderedNumbers.lt_iff _ _).1 hless).2 (OrderedNumbers.le_of_lt hmore)
  refine ⟨isNearest_of_contains hroad hcontains, ?_⟩
  rw [startRoads_of_mem halong]
  exact isNearest_of_contains halong hcontains

theorem isNearest_of_closestWithin {s : Segment α}
    (h : closestWithin? net.roads p none (some startAngle) = some s) :
    IsNearest (net.startRoads p) p.point s := by
  obtain ⟨hroad, hadmits⟩ := closestWithin?_mem h
  have halong : s ∈ net.roadsAlong p := mem_roadsAlong.2 ⟨hroad, admits_startAngle_iff.1 hadmits⟩
  rw [startRoads_of_mem halong]
  refine ⟨halong, fun t ht => ?_⟩
  obtain ⟨htroad, htangle⟩ := mem_roadsAlong.1 ht
  exact closestWithin?_distance_le h htroad (admits_startAngle_iff.2 htangle)

theorem startRoads_of_closestWithin
    (h : closestWithin? net.roads p none (some startAngle) = none) :
    net.startRoads p = net.roads := by
  apply if_pos
  rw [List.isEmpty_iff, roadsAlong, List.filter_eq_nil_iff]
  intro s hs
  have hrefused := closestWithin?_eq_none_iff.1 h s hs
  rw [decide_eq_true_iff, ← admits_startAngle_iff, hrefused]
  exact Bool.false_ne_true

theorem startCandidates_isNearest (hroads : net.roads ≠ [])
    (hbounded : ∀ s ∈ net.roads, (candidate p s).Bounded) :
    net.startCandidates p ≠ [] ∧
      ∀ id ∈ net.startCandidates p, ∃ s, s.id = id ∧ IsNearest (net.startRoads p) p.point s := by
  by_cases hhere : net.alignedAt p = []
  · obtain ⟨s, hcandidates, hnearest⟩ : ∃ s, net.startCandidates p = [s].map (·.id) ∧
        IsNearest (net.startRoads p) p.point s := by
      rw [alignedAt] at hhere
      cases hwithin : closestWithin? net.roads p none (some startAngle) with
      | some s =>
        refine ⟨s, ?_, isNearest_of_closestWithin hwithin⟩
        simp [startCandidates, hhere, hwithin]
      | none =>
        obtain ⟨s, hclosest, hnearest⟩ := exists_nearest hroads hbounded
        refine ⟨s, ?_, startRoads_of_closestWithin hwithin ▸ hnearest⟩
        simp [startCandidates, hhere, hwithin, hclosest]
    exact candidates_of_segments hcandidates (by simp) (by simpa using hnearest)
  · exact candidates_of_segments (startCandidates_of_alignedAt hhere) hhere fun s hs =>
      (isNearest_of_mem_alignedAt hs).2

/-- With any road there are candidates for every start and goal, if each road is at a finite
distance or turned by a finite angle. Those of a goal are nearest roads. Those of a start are the
roads at it along which it heads, which are nearest roads, too; without such roads they are still
nearest among the roads along which the start heads, if there are any anywhere. So a path never
starts farther away than on such a road. -/
theorem candidates_nearest (ha : net.Accepted) (hroads : net.roads ≠ []) {p : Pose α}
    (hbounded : ∀ s ∈ net.roads, (candidate p s).Bounded) :
    net.startCandidates p ≠ [] ∧ net.goalCandidates p ≠ [] ∧
    (∀ id ∈ net.goalCandidates p, ∃ s, net.segment? id = some s ∧
      IsNearest net.roads p.point s) ∧
    (∀ id ∈ net.startCandidates p, ∃ s, net.segment? id = some s ∧ s ∈ net.roads ∧
      IsNearest (net.startRoads p) p.point s) ∧
    (net.alignedAt p ≠ [] → net.startCandidates p = (net.alignedAt p).map (·.id) ∧
      ∀ s ∈ net.alignedAt p, IsNearest net.roads p.point s) ∧
    (∀ goal avoid ids, (net.pathBetweenPoses p goal avoid).result = .ok (some ids) →
      ∃ s, ids.head? = some s.id ∧ IsNearest (net.startRoads p) p.point s) := by
  obtain ⟨hstart, hstarts⟩ := startCandidates_isNearest hroads hbounded
  obtain ⟨hgoal, hgoals⟩ := goalCandidates_isNearest hroads hbounded
  have hknown : ∀ {s : Segment α}, s ∈ net.roads → net.segment? s.id = some s :=
    fun hs => ha.segment?_eq_some.2 ⟨(List.mem_filter.1 hs).1, rfl⟩
  refine ⟨hstart, hgoal, ?_, ?_, ?_, ?_⟩
  · intro id hid
    obtain ⟨s, rfl, hnearest⟩ := hgoals id hid
    exact ⟨s, hknown hnearest.1, hnearest⟩
  · intro id hid
    obtain ⟨s, rfl, hnearest⟩ := hstarts id hid
    have hroad := mem_roads_of_mem_startRoads hnearest.1
    exact ⟨s, hknown hroad, hroad, hnearest⟩
  · intro hhere
    exact ⟨startCandidates_of_alignedAt hhere, fun s hs => (isNearest_of_mem_alignedAt hs).1⟩
  · intro goal avoid ids hids
    obtain ⟨id, hid, stop, -, cost, hwalk, -⟩ := walk_of_pathBetweenPoses hids
    obtain ⟨s, rfl, hnearest⟩ := hstarts id hid
    exact ⟨s, hwalk.ends.1, hnearest⟩

end Rounded

/-! ## A start across its road -/

def startAcross : Pose Rat := ⟨5, 0, 0, Rational.quarterTurn⟩

/-- The pose lies on the first road, but starts on the second one, which is farther away. -/
theorem crossing_starts_astray : (crossing false).Accepted ∧ (crossing false).roads ≠ [] ∧
    (crossing false).startCandidates startAcross = [2] ∧
    ¬ ∀ id ∈ (crossing false).startCandidates startAcross, ∃ s,
      (crossing false).segment? id = some s ∧
        IsNearest (crossing false).roads startAcross.point s := by
  have hroads : (crossing false).roads.length = 2 := by decide +kernel
  have hcandidates : (crossing false).startCandidates startAcross = [2] := by decide +kernel
  have hfar : ((crossing false).segment? 2).all (fun s => (crossing false).roads.any fun t =>
      t.outline.distance startAcross.point < s.outline.distance startAcross.point) = true := by
    decide +kernel
  refine ⟨accepted_crossing false, List.ne_nil_of_length_pos (by omega), hcandidates, ?_⟩
  intro h
  obtain ⟨s, hs, -, hleast⟩ := h 2 (by simp [hcandidates])
  rw [hs] at hfar
  obtain ⟨t, ht, hlt⟩ := List.any_eq_true.1 hfar
  exact absurd (hleast t ht) (not_le.2 (of_decide_eq_true hlt))

/-- The second road is nearest among the roads along which the pose heads. -/
theorem crossing_starts_nearest : (crossing false).Accepted ∧ (crossing false).roads ≠ [] ∧
    (∀ s ∈ (crossing false).roads, (candidate startAcross s).Bounded) ∧
    ∀ id ∈ (crossing false).startCandidates startAcross, ∃ s,
      (crossing false).segment? id = some s ∧ s ∈ (crossing false).roads ∧
        IsNearest ((crossing false).startRoads startAcross) startAcross.point s := by
  have hroads : (crossing false).roads.length = 2 := by decide +kernel
  have hne : (crossing false).roads ≠ [] := List.ne_nil_of_length_pos (by omega)
  have hbounded : ∀ s ∈ (crossing false).roads, (candidate startAcross s).Bounded :=
    fun _ _ => Or.inl rfl
  obtain ⟨-, -, -, hstarts, -, -⟩ := candidates_nearest (accepted_crossing false) hne hbounded
  exact ⟨accepted_crossing false, hne, hbounded, hstarts⟩

end LaneRoute.RoadNetwork
