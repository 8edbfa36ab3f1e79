import LaneRoute.Proofs.Goal.Chains
import LaneRoute.Proofs.Goal.Verdict
import LaneRoute.Proofs.Network.Legs

/-!
# Looser checks admit more

In exact arithmetic a goal that is admitted stays so when further known lanes lead to it and the
rules ask for less: a wider angle, a longer search or no footprint. The two searches for room
need not visit the same chains of lanes, so that they are compared by the chains that they stand
for. Every other step looks at the same shoulder, road and areas in both checks.
-/

set_option autoImplicit false

namespace LaneRoute.RoadNetwork

variable {α : Type} [Planar α]

/-! ## Angles -/

/-- Rules that ask for less of a goal: a wider angle, a longer search, or no footprint. -/
structure Relaxes (strict loose : GoalRules α) : Prop where
  vehicle : loose.vehicle = strict.vehicle
  angle : ∃ a b, strict.maxAngle = .ok a ∧ loose.maxAngle = .ok b ∧ a ≤ b
  margin : ∃ a b, strict.searchMargin = .ok a ∧ loose.searchMargin = .ok b ∧ a ≤ b
  footprint : loose.checkFootprint = true → strict.checkFootprint = true

section Angles

variable [ExactSums α] [ExactDegrees α] {net : RoadNetwork α} {strict loose : GoalRules α}
  {goal : Pose α}

theorem Along.relax {s : Segment α} (hrules : Relaxes strict loose) (h : Along strict goal s) :
    Along loose goal s := by
  obtain ⟨limit, hlimit, haligned⟩ := h
  obtain ⟨a, b, ha, hb, hle⟩ := hrules.angle
  obtain rfl := Except.ok.inj (ha.symm.trans hlimit)
  exact ⟨b, hb, haligned.trans_le (ExactDegrees.ofDegrees_le a b hle)⟩

theorem isAligned_relax (hrules : Relaxes strict loose) (goal : Pose α) (s : Segment α) :
    ∃ before after, isAligned strict goal s = .ok before ∧ isAligned loose goal s = .ok after ∧
      (before = true → after = true) := by
  obtain ⟨a, b, ha, hb, -⟩ := hrules.angle
  obtain ⟨before, hbefore, halong⟩ := exists_isAligned ha goal s
  obtain ⟨after, hafter, halong'⟩ := exists_isAligned hb goal s
  exact ⟨before, after, hbefore, hafter, fun h => halong'.2 ((halong.1 h).relax hrules)⟩

theorem isOnAlignedShoulder_relax (hrules : Relaxes strict loose) (net : RoadNetwork α)
    (goal : Pose α) :
    ∃ before after, net.isOnAlignedShoulder strict goal = .ok before ∧
      net.isOnAlignedShoulder loose goal = .ok after ∧ (before = true → after = true) := by
  unfold isOnAlignedShoulder
  split
  next s _ => exact isAligned_relax hrules goal s
  next => exact ⟨false, false, rfl, rfl, id⟩

theorem isPlaced_relax {road : Segment α} (hrules : Relaxes strict loose)
    (h : net.isPlaced strict goal road = .ok true) : net.isPlaced loose goal road = .ok true := by
  obtain ⟨before, after, hbefore, hafter, himp⟩ := isAligned_relax hrules goal road
  unfold isPlaced at h ⊢
  rw [hbefore] at h
  rw [hafter]
  by_cases hon : road.outline.isOn goal.point = true
  · rw [if_pos hon] at h ⊢
    cases after with
    | true => rfl
    | false =>
      obtain rfl : before = false := by simpa using himp
      exact h
  · rw [if_neg hon] at h ⊢
    exact h

end Angles

/-! ## Room -/

theorem hasRoom_eq_true_iff {net : RoadNetwork α} {rules : GoalRules α} {goal : Pose α}
    {road : Segment α} {preceding : List Int} {footprint : Ring α} :
    net.hasRoom rules goal road preceding footprint = .ok true ↔
      rules.checkFootprint = false ∨ ∃ region, net.combined preceding = .ok region ∧
        ∃ limit, rules.searchLength = .ok limit ∧
        ∃ fits, net.footprintFits limit road.id region footprint = .ok fits ∧
          (fits || inParkingLot net.parkingLots goal.point) = true := by
  unfold hasRoom
  cases rules.checkFootprint with
  | false => exact iff_of_true rfl (Or.inl rfl)
  | true =>
    simp only [if_true, Bool.true_eq_false, false_or, Fallible.bind_eq_ok, Fallible.pure_eq_ok]

section Rooms

variable [PointSets α] {net : RoadNetwork α} {footprint : Ring α} {limit longer : α}
  {region wider : Region α}

theorem mem_points_combined {ids : List Int} (h : net.combined ids = .ok region) {p : Point α} :
    p ∈ region.points ↔ ∃ id ∈ ids, ∃ s, net.segment? id = some s ∧
      p ∈ Region.ground (net.withShoulders s) := by
  obtain ⟨ss, hss, hregion⟩ := Fallible.bind_eq_ok.1 h
  rw [Region.points_ofRings hregion]
  simp only [Region.mem_ground, List.mem_flatMap, Fallible.mem_of_mapM hss, segment_eq_ok]
  constructor
  · rintro ⟨ring, ⟨s, ⟨id, hid, hs⟩, hring⟩, hp⟩
    exact ⟨id, hid, s, hs, ring, hring, hp⟩
  · rintro ⟨id, hid, s, hs, ring, hring, hp⟩
    exact ⟨ring, ⟨s, ⟨id, hid, hs⟩, hring⟩, hp⟩

theorem points_combined_subset {ids more : List Int} (hids : ids ⊆ more)
    (h : net.combined ids = .ok region) (hmore : net.combined more = .ok wider) :
    region.points ⊆ wider.points := by
  intro p hp
  obtain ⟨id, hid, s, hs, hground⟩ := (mem_points_combined h).1 hp
  exact (mem_points_combined hmore).2 ⟨id, hids hid, s, hs, hground⟩

variable [ExactQuotients α]

theorem MakesRoom.mono {ss : List (Segment α)} (hlimit : limit ≤ longer)
    (hregion : region.points ⊆ wider.points) (h : net.MakesRoom limit region footprint ss) :
    net.MakesRoom longer wider footprint ss := by
  constructor
  · intro j hpos hlt
    exact (h.short j hpos hlt).trans hlimit
  · exact h.held.trans (Set.union_subset_union_left _ hregion)

theorem Fits.mono {s : Segment α} (hlimit : limit ≤ longer)
    (hregion : region.points ⊆ wider.points) (h : net.Fits limit s region footprint) :
    net.Fits longer s wider footprint := by
  obtain ⟨ss, hlinked, hroom⟩ := h
  exact ⟨ss, hlinked, hroom.mono hlimit hregion⟩

theorem footprintFits_mono {road : Segment α} {fits : Bool} (hn : net.Accepted)
    (hroad : road ∈ net.segments) (hlimit : limit ≤ longer)
    (hregion : region.points ⊆ wider.points)
    (h : net.footprintFits limit road.id region footprint = .ok fits) :
    ∃ fits', net.footprintFits longer road.id wider footprint = .ok fits' ∧
      (fits = true → fits' = true) := by
  have hs := hn.segment?_eq_some.2 ⟨hroad, rfl⟩
  obtain ⟨before, hbefore, hiff⟩ := footprintFits_eq_ok net limit footprint hs region
  obtain ⟨after, hafter, hiff'⟩ := footprintFits_eq_ok net longer footprint hs wider
  rw [grows_iff_fits hn hs] at hiff hiff'
  obtain rfl := Except.ok.inj (hbefore.symm.trans h)
  exact ⟨after, hafter, fun hfits => hiff'.2 ((hiff.1 hfits).mono hlimit hregion)⟩

theorem hasRoom_relax {strict loose : GoalRules α} {goal : Pose α} {road : Segment α}
    {preceding more : List Int} (hn : net.Accepted) (hroad : road ∈ net.segments)
    (hrules : Relaxes strict loose) (hids : preceding ⊆ more)
    (hknown : ∀ id ∈ more, ∃ s, net.segment? id = some s)
    (h : net.hasRoom strict goal road preceding footprint = .ok true) :
    net.hasRoom loose goal road more footprint = .ok true := by
  rw [hasRoom_eq_true_iff] at h ⊢
  by_cases hcheck : loose.checkFootprint = true
  · right
    rcases h with hoff | ⟨region, hregion, limit, hlimit, fits, hfits, hroom⟩
    · simp [hrules.footprint hcheck] at hoff
    obtain ⟨a, b, ha, hb, hle⟩ := hrules.margin
    obtain ⟨wider, hwider⟩ := exists_combined hknown
    have hstrict : strict.searchLength = .ok (strict.vehicle.front + a) := by
      rw [GoalRules.searchLength, ha]
      rfl
    have hloose : loose.searchLength = .ok (strict.vehicle.front + b) := by
      rw [GoalRules.searchLength, hb, hrules.vehicle]
      rfl
    obtain rfl := Except.ok.inj (hstrict.symm.trans hlimit)
    obtain ⟨fits', hfits', himp⟩ := footprintFits_mono hn hroad (add_le_add_right hle _)
      (points_combined_subset hids hregion hwider) hfits
    refine ⟨wider, hwider, _, hloose, fits', hfits', ?_⟩
    simp only [Bool.or_eq_true] at hroom ⊢
    exact hroom.imp_left himp
  · exact Or.inl (by simpa using hcheck)

variable [ExactDegrees α]

/-- A goal that is admitted stays so when more known lanes lead to it and the rules ask for
less. -/
theorem checkGoal_relax {strict loose : GoalRules α} {goal : Pose α} {preceding more : List Int}
    (hn : net.Accepted) (hrules : Relaxes strict loose) (hids : preceding ⊆ more)
    (hknown : ∀ id ∈ more, ∃ s, net.segment? id = some s)
    (h : (net.checkGoal strict goal preceding).report.result = .ok true) :
    (net.checkGoal loose goal more).report.result = .ok true := by
  obtain ⟨before, after, hbefore, hafter, himp⟩ := isOnAlignedShoulder_relax hrules net goal
  rw [checkGoal_eq_true_iff] at h ⊢
  cases after with
  | true => exact Or.inl hafter
  | false =>
    -- off all shoulders under the loose rules means off them under the strict ones
    obtain rfl : before = false := by simpa using himp
    rcases h with hon | ⟨-, road, footprint, hroad, hfootprint, hroom, hplaced⟩
    · cases hbefore.symm.trans hon
    · have hmem : road ∈ net.segments := (List.mem_filter.1 (goalRoad?_mem hroad)).1
      refine Or.inr ⟨hafter, road, footprint, hroad, ?_, ?_, isPlaced_relax hrules hplaced⟩
      · rw [hrules.vehicle]
        exact hfootprint
      · exact hasRoom_relax hn hmem hrules hids hknown hroom

end Rooms

section Rectangles

noncomputable local instance (priority := high) : Planar Rat := Rational.pointwise

noncomputable local instance : PointSets Rat := Rational.pointSets

def crossingGoal : Pose Rat := ⟨20, 0, 0, Rational.quarterTurn⟩

def looserRules : GoalRules Rat :=
  { crossingRules with maxAngle := .ok 60, searchMargin := .ok 3 }

theorem relaxes_looserRules : Relaxes crossingRules looserRules where
  vehicle := rfl
  angle := ⟨45, 60, rfl, rfl, by decide⟩
  margin := ⟨2, 3, rfl, rfl, by decide⟩
  footprint := id

theorem crossing_hasRoom (road : Segment Rat) : ∃ footprint,
    crossingGoal.placeRing (crossingRules.vehicle.footprint 0 0) = .ok footprint ∧
    (crossing true).hasRoom crossingRules crossingGoal road [2] footprint = .ok true := by
  obtain ⟨footprint, hfootprint⟩ := exists_placeRing crossingRules.vehicle crossingGoal
  obtain ⟨s, hs⟩ : ∃ s, (crossing true).segment? 2 = some s := ⟨_, rfl⟩
  obtain ⟨region, hregion⟩ : ∃ region, (crossing true).combined [2] = .ok region :=
    exists_combined (by simp [hs])
  have hinside : ((crossing true).segment? 2).any (fun s =>
      (crossingGoal.placeRing (crossingRules.vehicle.footprint 0 0)).toOption.any
        fun footprint => s.outline.box.holdsBox footprint.box) = true := by decide +kernel
  rw [hs, hfootprint] at hinside
  have hcovers : Planar.covers region footprint = .ok true := by
    rw [PointSets.covers_iff]
    intro p hp
    refine (mem_points_combined hregion).2 ⟨2, by simp, s, hs, ?_⟩
    exact Region.mem_ground.2 ⟨s.outline, by simp [withShoulders], Rational.boxPoints_subset hinside hp⟩
  have hfits : (crossing true).footprintFits (crossingRules.vehicle.front + 2) road.id region
      footprint = .ok true := by
    rw [footprintFits, hcovers]
    rfl
  exact ⟨footprint, hfootprint,
    hasRoom_eq_true_iff.2 (Or.inr ⟨region, hregion, _, rfl, true, hfits, rfl⟩)⟩

/-- The goal is admitted after the second road, so it is after both roads under looser rules. -/
theorem crossing_relax :
    ((crossing true).checkGoal crossingRules crossingGoal [2]).report.result = .ok true ∧
    ((crossing true).checkGoal looserRules crossingGoal [1, 2]).report.result = .ok true := by
  have hshoulder : (crossing true).isOnAlignedShoulder crossingRules crossingGoal = .ok false :=
    Fallible.ok_of_toOption (by decide +kernel)
  obtain ⟨road, hroad⟩ : ∃ road, (crossing true).goalRoad? crossingGoal = some road :=
    Option.isSome_iff_exists.1 (by decide +kernel)
  have hplaced : (((crossing true).goalRoad? crossingGoal).bind fun road =>
      ((crossing true).isPlaced crossingRules crossingGoal road).toOption) = some true := by
    decide +kernel
  rw [hroad] at hplaced
  obtain ⟨footprint, hfootprint, hroom⟩ := crossing_hasRoom road
  have hstrict := checkGoal_eq_true_iff.2 (Or.inr ⟨hshoulder, road, footprint, hroad, hfootprint,
    hroom, Fallible.ok_of_toOption hplaced⟩)
  have hknown : ∀ id ∈ [1, 2], ∃ s, (crossing true).segment? id = some s := by
    intro id hid
    rcases List.mem_pair.1 hid with rfl | rfl <;> exact ⟨_, rfl⟩
  exact ⟨hstrict, checkGoal_relax (accepted_crossing true) relaxes_looserRules (by simp) hknown
    hstrict⟩

end Rectangles

end LaneRoute.RoadNetwork
