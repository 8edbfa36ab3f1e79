import LaneRoute.Proofs.Goal.Admission
import LaneRoute.Proofs.Goal.Search
import LaneRoute.Proofs.Network.NearestRoad
import LaneRoute.Geometry.Cover

/-!
# Verdicts on goals

What the verdict on a goal is that lies on no border. The shoulder and the road that are looked at
are the best aligned ones at the goal, so that they speak for all others there; a goal is refused
for the first of three reasons that applies. The road of a goal on no road is the nearest one, and
a road counts only from a finite distance.
-/

set_option autoImplicit false

namespace LaneRoute.RoadNetwork

open Scalar

variable {α : Type} [Planar α]

/-! ## Places -/

def OnShoulder (net : RoadNetwork α) (rules : GoalRules α) (goal : Pose α) : Prop :=
  ∃ s ∈ net.shouldersAt goal.point, Along rules goal s

def OnRoad (net : RoadNetwork α) (rules : GoalRules α) (goal : Pose α) : Prop :=
  ∃ s ∈ net.roadsAt goal.point, Along rules goal s

/-- Some road is at a finite distance. -/
def InReach (net : RoadNetwork α) (p : Point α) : Prop :=
  ∃ s ∈ net.roads, isBounded (s.outline.distance p) = true

def InAny (rings : List (Ring α)) (p : Point α) : Prop := ∃ ring ∈ rings, ring.contains p = true

def InSpace (spaces : List (ParkingSpace α)) (p : Point α) : Prop :=
  ∃ space ∈ spaces, ∃ rings, space.area = .ok (some rings) ∧ InAny rings p

def InLot (lots : List (ParkingLot α)) (p : Point α) : Prop :=
  ∃ lot ∈ lots, lot.outline.contains p = true

/-- A point is in an area or keeps the tolerance from it. -/
def Apart (rings : List (Ring α)) (p : Point α) : Prop :=
  InAny rings p ∨ ∀ ring ∈ rings, epsilon ≤ ring.distance p

/-- A point is apart from all segments and parking areas, and these have outlines. -/
structure Clear (net : RoadNetwork α) (p : Point α) : Prop where
  segments : ∀ s ∈ net.segments, Apart [s.outline] p
  spaces : ∀ space ∈ net.parkingSpaces, ∃ rings, space.area = .ok rings ∧
    Apart (rings.getD []) p
  lots : ∀ lot ∈ net.parkingLots, Apart [lot.outline] p

def roomSearch (net : RoadNetwork α) (rules : GoalRules α) (road : Segment α)
    (preceding : List Int) (footprint : Ring α) : Except Fault Bool := do
  let region ← net.combined preceding
  net.footprintFits (← rules.searchLength) road.id region footprint

def FootprintFits (net : RoadNetwork α) (rules : GoalRules α) (goal : Pose α)
    (preceding : List Int) : Prop :=
  ∃ road footprint, net.goalRoad? goal = some road ∧
    goal.placeRing (rules.vehicle.footprint 0 0) = .ok footprint ∧
    net.roomSearch rules road preceding footprint = .ok true

/-- The footprint has no place at a goal, or it is asked for and the search for room breaks off. -/
def BreaksOff (net : RoadNetwork α) (rules : GoalRules α) (goal : Pose α) (preceding : List Int)
    (fault : Fault) : Prop :=
  ∃ road, net.goalRoad? goal = some road ∧
    (goal.placeRing (rules.vehicle.footprint 0 0) = .error fault ∨
      rules.checkFootprint = true ∧ ∃ footprint,
        goal.placeRing (rules.vehicle.footprint 0 0) = .ok footprint ∧
        net.roomSearch rules road preceding footprint = .error fault)

/-- No footprint is asked for, or it fits, or a parking lot excuses it. -/
def Roomy (net : RoadNetwork α) (rules : GoalRules α) (goal : Pose α) (preceding : List Int) :
    Prop :=
  rules.checkFootprint = false ∨ net.FootprintFits rules goal preceding ∨
    InLot net.parkingLots goal.point

def Placed (net : RoadNetwork α) (rules : GoalRules α) (goal : Pose α) : Prop :=
  net.OnRoad rules goal ∨ InSpace net.parkingSpaces goal.point ∨ InLot net.parkingLots goal.point

def Admissible (net : RoadNetwork α) (rules : GoalRules α) (goal : Pose α)
    (preceding : List Int) : Prop :=
  net.OnShoulder rules goal ∨
    net.InReach goal.point ∧ net.Roomy rules goal preceding ∧ net.Placed rules goal

section Rounded

variable [RoundedNumbers α] {net : RoadNetwork α} {rules : GoalRules α} {goal : Pose α}
  {p : Point α} {angle : α} {preceding : List Int}

/-! ## Borders -/

theorem isOnAny_iff {rings : List (Ring α)} (hepsilon : (0 : α) < epsilon)
    (h : Apart rings p) : isOnAny rings p = true ↔ InAny rings p := by
  rw [isOnAny, List.any_eq_true]
  constructor
  · rintro ⟨ring, hring, hon⟩
    rcases h with hin | hapart
    · exact hin
    · exact absurd (of_decide_eq_true hon) (OrderedNumbers.not_lt_of_le (hapart ring hring))
  · rintro ⟨ring, hring, hcontains⟩
    refine ⟨ring, hring, decide_eq_true ?_⟩
    rw [Ring.distance_of_contains hcontains]
    exact hepsilon

theorem isOn_iff {ring : Ring α} (hepsilon : (0 : α) < epsilon) (h : Apart [ring] p) :
    ring.isOn p = true ↔ ring.contains p = true := by
  have hany := isOnAny_iff hepsilon h
  simpa [isOnAny, InAny] using hany

theorem apart_of_unbounded {ring : Ring α} (hepsilon : isBounded (epsilon : α) = true)
    (h : isBounded (ring.distance p) = false) : Apart [ring] p := by
  rcases OrderedNumbers.le_total _ _ (OrderedNumbers.isNumber_of_isBounded epsilon hepsilon)
    (Ring.isNumber_distance ring p) with hle | hle
  · exact Or.inr (by simpa using hle)
  · rw [RoundedNumbers.isBounded_of_le _ _ hle hepsilon] at h
    cases h

theorem inParkingLot_iff (hepsilon : (0 : α) < epsilon) {lots : List (ParkingLot α)}
    (h : ∀ lot ∈ lots, Apart [lot.outline] p) : inParkingLot lots p = true ↔ InLot lots p := by
  rw [inParkingLot, List.any_eq_true]
  constructor
  · rintro ⟨lot, hlot, hholds⟩
    exact ⟨lot, hlot, (isOn_iff hepsilon (h lot hlot)).1 hholds⟩
  · rintro ⟨lot, hlot, hcontains⟩
    exact ⟨lot, hlot, (isOn_iff hepsilon (h lot hlot)).2 hcontains⟩

theorem inParkingSpace_eq_ok (hepsilon : (0 : α) < epsilon)
    {spaces : List (ParkingSpace α)} (h : ∀ space ∈ spaces, ∃ rings, space.area = .ok rings ∧
      Apart (rings.getD []) p) :
    ∃ inside, inParkingSpace spaces p = .ok inside ∧ (inside = true ↔ InSpace spaces p) := by
  induction spaces with
  | nil => exact ⟨false, rfl, by simp [InSpace]⟩
  | cons space rest ih =>
    obtain ⟨rings, harea, hapart⟩ := h space (by simp)
    obtain ⟨inside, hinside, hiff⟩ := ih fun other hother => h other (by simp [hother])
    have hholds : space.holds p = .ok (isOnAny (rings.getD []) p) := by
      rw [ParkingSpace.holds, harea]
      rfl
    have hfirst : isOnAny (rings.getD []) p = true ↔
        ∃ parts, space.area = .ok (some parts) ∧ InAny parts p := by
      rw [isOnAny_iff hepsilon hapart, harea]
      cases rings with
      | none => simp [InAny]
      | some parts => simp
    have hspaces : InSpace (space :: rest) p ↔
        isOnAny (rings.getD []) p = true ∨ InSpace rest p := by
      rw [hfirst]
      simp [InSpace]
    cases hon : isOnAny (rings.getD []) p with
    | true =>
      refine ⟨true, ?_, by simp [hspaces, hon]⟩
      rw [inParkingSpace, hholds, hon]
      rfl
    | false =>
      refine ⟨inside, ?_, by simp [hspaces, hon, hiff]⟩
      rw [inParkingSpace, hholds, hon]
      exact hinside

/-! ## Alignment -/

theorem along_closest {segments : List (Segment α)} {s : Segment α}
    (hs : closest? segments goal = some s)
    (hat : ∀ t ∈ segments, t.outline.contains goal.point = true)
    (hturn : ∀ t ∈ segments, isNumber (candidate goal t).angle = true) :
    Along rules goal s ↔ ∃ t ∈ segments, Along rules goal t := by
  constructor
  · intro halong
    exact ⟨s, closest?_mem hs, halong⟩
  · rintro ⟨t, ht, limit, hlimit, hless⟩
    have hleast := closest?_angle_le hat hturn RoundedNumbers.isBounded_zero hs ht
    exact ⟨limit, hlimit, OrderedNumbers.lt_of_le_of_lt hleast hless⟩

theorem bounded_of_contains {s : Segment α} (h : s.outline.contains p = true) :
    isBounded (s.outline.distance p) = true := by
  rw [Ring.distance_of_contains h]
  exact RoundedNumbers.isBounded_zero

theorem closest?_eq_none {segments : List (Segment α)}
    (hat : ∀ t ∈ segments, t.outline.contains goal.point = true) :
    closest? segments goal = none ↔ segments = [] := by
  constructor
  · intro hnone
    by_contra hne
    obtain ⟨t, ht⟩ := List.exists_mem_of_ne_nil _ hne
    obtain ⟨s, hs⟩ := exists_closest ht (Or.inl (bounded_of_contains (hat t ht)))
    rw [hs] at hnone
    cases hnone
  · rintro rfl
    rfl

omit [RoundedNumbers α] in
theorem contains_of_mem_roadsAt : ∀ t ∈ net.roadsAt p, t.outline.contains p = true :=
  fun _ ht => (mem_roadsAt.1 ht).2

omit [RoundedNumbers α] in
theorem mem_of_mem_shouldersAt {s : Segment α} (h : s ∈ net.shouldersAt p) :
    s ∈ net.segments ∧ s.outline.contains p = true :=
  List.mem_filter.1 (List.mem_filter.1 h).1

/-! ## The steps of a check -/

theorem isOnAlignedShoulder_eq_ok (hangle : rules.maxAngle = .ok angle)
    (hturn : ∀ s ∈ net.segmentsAt goal.point, isNumber (candidate goal s).angle = true) :
    ∃ on, net.isOnAlignedShoulder rules goal = .ok on ∧
      (on = true ↔ net.OnShoulder rules goal) := by
  unfold isOnAlignedShoulder
  have hat : ∀ t ∈ net.shouldersAt goal.point, t.outline.contains goal.point = true :=
    fun t ht => (mem_of_mem_shouldersAt ht).2
  cases hs : closest? (net.shouldersAt goal.point) goal with
  | none =>
    have hnil := (closest?_eq_none hat).1 hs
    exact ⟨false, rfl, by simp [OnShoulder, hnil]⟩
  | some s =>
    obtain ⟨aligned, haligned, hiff⟩ := exists_isAligned hangle goal s
    refine ⟨aligned, haligned, hiff.trans (along_closest hs hat fun t ht => ?_)⟩
    exact hturn t (List.mem_filter.1 ht).1

omit [RoundedNumbers α] in
theorem isOnAlignedShoulder_of_all (hkind : ∀ s ∈ net.segments, s.isShoulder = false) :
    net.isOnAlignedShoulder rules goal = .ok false := by
  have hnil : net.shouldersAt goal.point = [] := by
    simp only [shouldersAt, List.filter_eq_nil_iff]
    intro s hs
    simp [hkind s (List.mem_filter.1 hs).1]
  rw [isOnAlignedShoulder, hnil]
  rfl

theorem goalRoad?_eq_none : net.goalRoad? goal = none ↔ ¬ net.InReach goal.point := by
  have hfar : ¬ net.InReach goal.point ↔ net.nearestRoad? goal.point = none := by
    rw [nearestRoad?_eq_none_iff]
    simp [InReach]
  rw [hfar, goalRoad?, Option.orElse_eq_none, and_iff_right_iff_imp]
  intro hnone
  -- a road at the goal would be in reach
  rw [closest?_eq_none contains_of_mem_roadsAt, List.eq_nil_iff_forall_not_mem]
  intro t ht
  obtain ⟨hroad, hcontains⟩ := mem_roadsAt.1 ht
  exact hfar.2 hnone ⟨t, hroad, bounded_of_contains hcontains⟩

theorem along_goalRoad {road : Segment α} (rules : GoalRules α) (hepsilon : (0 : α) < epsilon)
    (hclear : net.Clear goal.point)
    (hturn : ∀ s ∈ net.segmentsAt goal.point, isNumber (candidate goal s).angle = true)
    (hroad : net.goalRoad? goal = some road) :
    road.outline.isOn goal.point = true ∧ Along rules goal road ↔ net.OnRoad rules goal := by
  have hmem := goalRoad?_mem hroad
  have hapart := hclear.segments road (List.mem_filter.1 hmem).1
  rw [isOn_iff hepsilon hapart]
  cases hs : closest? (net.roadsAt goal.point) goal with
  | none =>
    have hnil := (closest?_eq_none contains_of_mem_roadsAt).1 hs
    have hout : ¬ road.outline.contains goal.point = true := by
      intro hcontains
      have hat := mem_roadsAt.2 ⟨hmem, hcontains⟩
      simp [hnil] at hat
    simp [OnRoad, hnil, hout]
  | some s =>
    obtain rfl : s = road := by simpa [goalRoad?, hs] using hroad
    have hcontains := (mem_roadsAt.1 (closest?_mem hs)).2
    rw [along_closest hs contains_of_mem_roadsAt fun t ht =>
      hturn t (List.mem_filter.1 ht).1]
    simp [OnRoad, hcontains]

theorem isPlaced_eq_ok_iff {road : Segment α} (hangle : rules.maxAngle = .ok angle)
    (hepsilon : (0 : α) < epsilon) (hclear : net.Clear goal.point)
    (hturn : ∀ s ∈ net.segmentsAt goal.point, isNumber (candidate goal s).angle = true)
    (hroad : net.goalRoad? goal = some road) :
    ∃ placed, net.isPlaced rules goal road = .ok placed ∧
      (placed = true ↔ net.Placed rules goal) := by
  obtain ⟨aligned, haligned, hiff⟩ := exists_isAligned hangle goal road
  obtain ⟨inside, hinside, hspace⟩ := inParkingSpace_eq_ok hepsilon hclear.spaces
  have hlot := inParkingLot_iff hepsilon hclear.lots
  have honRoad := along_goalRoad rules hepsilon hclear hturn hroad
  refine ⟨(road.outline.isOn goal.point && aligned) || inside ||
    inParkingLot net.parkingLots goal.point, ?_, ?_⟩
  · unfold isPlaced
    rw [haligned, hinside]
    cases road.outline.isOn goal.point <;> cases aligned <;> cases inside <;> rfl
  · simp only [Bool.or_eq_true, Bool.and_eq_true, hiff, honRoad, hspace, hlot, Placed, or_assoc]

omit [RoundedNumbers α] in
theorem hasRoom_eq (net : RoadNetwork α) (rules : GoalRules α) (goal : Pose α) (road : Segment α)
    (preceding : List Int) (footprint : Ring α) :
    net.hasRoom rules goal road preceding footprint =
      if rules.checkFootprint then (net.roomSearch rules road preceding footprint).map
        (· || inParkingLot net.parkingLots goal.point)
      else .ok true := by
  unfold hasRoom roomSearch
  cases rules.checkFootprint with
  | false => rfl
  | true =>
    cases hregion : net.combined preceding with
    | error fault => rfl
    | ok region =>
      cases hlimit : rules.searchLength with
      | error fault => rfl
      | ok limit =>
        cases hfits : net.footprintFits limit road.id region footprint <;>
          simp [bind, Except.bind, pure, Except.pure, Except.map, hfits]

theorem hasRoom_eq_ok {road : Segment α} {footprint : Ring α} (hepsilon : (0 : α) < epsilon)
    (hclear : net.Clear goal.point) (hroad : net.goalRoad? goal = some road)
    (hfootprint : goal.placeRing (rules.vehicle.footprint 0 0) = .ok footprint)
    (hends : ∀ fault, ¬ net.BreaksOff rules goal preceding fault) :
    ∃ room, net.hasRoom rules goal road preceding footprint = .ok room ∧
      (room = true ↔ net.Roomy rules goal preceding) := by
  rw [hasRoom_eq]
  cases hcheck : rules.checkFootprint with
  | false => exact ⟨true, rfl, by simp [Roomy, hcheck]⟩
  | true =>
    cases hsearch : net.roomSearch rules road preceding footprint with
    | error fault =>
      exact absurd ⟨road, hroad, Or.inr ⟨hcheck, footprint, hfootprint, hsearch⟩⟩ (hends fault)
    | ok fits =>
      have hiff : fits = true ↔ net.FootprintFits rules goal preceding := by
        constructor
        · rintro rfl
          exact ⟨road, footprint, hroad, hfootprint, hsearch⟩
        · rintro ⟨road', footprint', hroad', hfootprint', hsearch'⟩
          obtain rfl := Option.some.inj (hroad.symm.trans hroad')
          obtain rfl := Except.ok.inj (hfootprint.symm.trans hfootprint')
          exact Except.ok.inj (hsearch.symm.trans hsearch')
      refine ⟨fits || inParkingLot net.parkingLots goal.point, rfl, ?_⟩
      simp [Roomy, hcheck, hiff, inParkingLot_iff hepsilon hclear.lots]

/-! ## The verdict -/

omit [RoundedNumbers α] in
theorem BreaksOff.unique {fault other : Fault} (h : net.BreaksOff rules goal preceding fault)
    (h' : net.BreaksOff rules goal preceding other) : fault = other := by
  obtain ⟨road, hroad, hfault⟩ := h
  obtain ⟨road', hroad', hother⟩ := h'
  obtain rfl := Option.some.inj (hroad.symm.trans hroad')
  rcases hfault with hfault | ⟨-, footprint, hfootprint, hfault⟩ <;>
    rcases hother with hother | ⟨-, footprint', hfootprint', hother⟩
  · exact Except.error.inj (hfault.symm.trans hother)
  · cases hfault.symm.trans hfootprint'
  · cases hfootprint.symm.trans hother
  · obtain rfl := Except.ok.inj (hfootprint.symm.trans hfootprint')
    exact Except.error.inj (hfault.symm.trans hother)

/-- The steps of a check, each with what it finds. -/
theorem checkGoal_cases (hangle : rules.maxAngle = .ok angle)
    (hepsilon : (0 : α) < epsilon) (hclear : net.Clear goal.point)
    (hturn : ∀ s ∈ net.segmentsAt goal.point, isNumber (candidate goal s).angle = true) :
    let verdict := net.checkGoal rules goal preceding
    (net.OnShoulder rules goal ∧ verdict = .accepted none) ∨
    (¬ net.OnShoulder rules goal ∧ ∃ fault footprint,
      net.BreaksOff rules goal preceding fault ∧ verdict = .broken footprint fault) ∨
    ¬ net.OnShoulder rules goal ∧ (∀ fault, ¬ net.BreaksOff rules goal preceding fault) ∧
      ((¬ net.InReach goal.point ∧ verdict = .refused .noRoadSegment none .noSegmentAroundGoal) ∨
        ∃ footprint, net.InReach goal.point ∧
          ((¬ net.Roomy rules goal preceding ∧
              verdict = .refused .footprintExceedsLane (some footprint) .footprintExceedsLane) ∨
            (net.Roomy rules goal preceding ∧ net.Placed rules goal ∧
              verdict = .accepted (some footprint)) ∨
            (net.Roomy rules goal preceding ∧ ¬ net.Placed rules goal ∧
              verdict = .refused .invalidAngleOrPosition (some footprint)
                (.goalRejected goal)))) := by
  dsimp only
  obtain ⟨on, hon, hshoulder⟩ := isOnAlignedShoulder_eq_ok hangle hturn
  unfold checkGoal
  rw [hon]
  cases on with
  | true => exact Or.inl ⟨hshoulder.1 rfl, rfl⟩
  | false =>
    have hoff : ¬ net.OnShoulder rules goal := by simp [← hshoulder]
    right
    cases hroad : net.goalRoad? goal with
    | none =>
      refine Or.inr ⟨hoff, ?_, Or.inl ⟨goalRoad?_eq_none.1 hroad, rfl⟩⟩
      rintro fault ⟨road, hsome, -⟩
      cases hroad.symm.trans hsome
    | some road =>
      have hreach : net.InReach goal.point := by
        by_contra hfar
        cases (goalRoad?_eq_none.2 hfar).symm.trans hroad
      cases hfootprint : goal.placeRing (rules.vehicle.footprint 0 0) with
      | error fault => exact Or.inl ⟨hoff, fault, none, ⟨road, hroad, Or.inl hfootprint⟩, rfl⟩
      | ok footprint =>
        by_cases hends : ∀ fault, ¬ net.BreaksOff rules goal preceding fault
        · obtain ⟨room, hroom, hroomy⟩ := hasRoom_eq_ok hepsilon hclear hroad hfootprint hends
          obtain ⟨placed, hplaced, hiff⟩ := isPlaced_eq_ok_iff hangle hepsilon hclear hturn hroad
          refine Or.inr ⟨hoff, hends, Or.inr ⟨footprint, hreach, ?_⟩⟩
          simp only [checkAtRoad, hroom, hplaced]
          cases room with
          | false => exact Or.inl ⟨by simp [← hroomy], rfl⟩
          | true =>
            right
            cases placed with
            | true => exact Or.inl ⟨hroomy.1 rfl, hiff.1 rfl, rfl⟩
            | false => exact Or.inr ⟨hroomy.1 rfl, by simp [← hiff], rfl⟩
        · obtain ⟨fault, hbreaks⟩ := not_forall_not.1 hends
          refine Or.inl ⟨hoff, fault, some footprint, hbreaks, ?_⟩
          obtain ⟨road', hroad', hfault | ⟨hcheck, footprint', hfootprint', hsearch⟩⟩ := hbreaks
          · cases hfootprint.symm.trans hfault
          · obtain rfl := Option.some.inj (hroad.symm.trans hroad')
            obtain rfl := Except.ok.inj (hfootprint.symm.trans hfootprint')
            have hroom : net.hasRoom rules goal road preceding footprint = .error fault := by
              rw [hasRoom_eq, hcheck, hsearch]
              rfl
            simp only [checkAtRoad, hroom]

/-- Off the shoulders, a check breaks off with the fault of the footprint, and leaves no failure on
record. Any other check answers: a goal is admitted exactly when it is admissible, and after the
check the failure on record says why it was not. -/
theorem checkGoal_result (goal : Pose α) (preceding : List Int)
    (hangle : rules.maxAngle = .ok angle) (hepsilon : (0 : α) < epsilon)
    (hclear : net.Clear goal.point)
    (hturn : ∀ s ∈ net.segmentsAt goal.point, isNumber (candidate goal s).angle = true) :
    let verdict := net.checkGoal rules goal preceding
    (∀ fault, ¬ net.OnShoulder rules goal → net.BreaksOff rules goal preceding fault →
      verdict.report.result = .error fault ∧
        ∀ memory : GoalMemory α, (memory.record verdict).failure = .none) ∧
    (net.OnShoulder rules goal ∨ (∀ fault, ¬ net.BreaksOff rules goal preceding fault) →
      ∃ admitted, verdict.report.result = .ok admitted ∧
        (admitted = true ↔ net.Admissible rules goal preceding) ∧
        ∀ memory : GoalMemory α,
          let failure := (memory.record verdict).failure
          (failure = .none ↔ admitted = true) ∧
          (failure = .noRoadSegment ↔
            ¬ net.OnShoulder rules goal ∧ ¬ net.InReach goal.point) ∧
          (failure = .footprintExceedsLane ↔ ¬ net.OnShoulder rules goal ∧
            net.InReach goal.point ∧ ¬ net.Roomy rules goal preceding) ∧
          (failure = .invalidAngleOrPosition ↔ ¬ net.OnShoulder rules goal ∧
            net.InReach goal.point ∧ net.Roomy rules goal preceding ∧
            ¬ net.Placed rules goal)) := by
  rcases checkGoal_cases hangle hepsilon hclear hturn with
    ⟨hon, hverdict⟩ | ⟨hoff, fault, footprint, hbreaks, hverdict⟩ |
      ⟨hoff, hends, ⟨hreach, hverdict⟩ | ⟨footprint, hreach, ⟨hroom, hverdict⟩ |
        ⟨hroom, hplaced, hverdict⟩ | ⟨hroom, hplaced, hverdict⟩⟩⟩
  · rw [hverdict]
    refine ⟨fun _ hoff => absurd hon hoff, fun _ => ⟨true, rfl, by simp [Admissible, hon], ?_⟩⟩
    simp [GoalMemory.record, Verdict.accepted, hon]
  · rw [hverdict]
    refine ⟨fun other _ hother => ⟨?_, fun _ => rfl⟩, ?_⟩
    · rw [← hbreaks.unique hother]
      rfl
    · rintro (hon | hends)
      · exact absurd hon hoff
      · exact absurd hbreaks (hends fault)
  · rw [hverdict]
    refine ⟨fun fault _ hbreaks => absurd hbreaks (hends fault),
      fun _ => ⟨false, rfl, by simp [Admissible, hoff, hreach], ?_⟩⟩
    simp [GoalMemory.record, Verdict.refused, hoff, hreach]
  · rw [hverdict]
    refine ⟨fun fault _ hbreaks => absurd hbreaks (hends fault),
      fun _ => ⟨false, rfl, by simp [Admissible, hoff, hroom], ?_⟩⟩
    simp [GoalMemory.record, Verdict.refused, hoff, hreach, hroom]
  · rw [hverdict]
    refine ⟨fun fault _ hbreaks => absurd hbreaks (hends fault),
      fun _ => ⟨true, rfl, by simp [Admissible, hreach, hroom, hplaced], ?_⟩⟩
    simp [GoalMemory.record, Verdict.accepted, hreach, hroom, hplaced]
  · rw [hverdict]
    refine ⟨fun fault _ hbreaks => absurd hbreaks (hends fault),
      fun _ => ⟨false, rfl, by simp [Admissible, hoff, hplaced], ?_⟩⟩
    simp [GoalMemory.record, Verdict.refused, hoff, hreach, hroom, hplaced]

end Rounded

/-! ## In exact arithmetic -/

section Exact

theorem exists_placeRing {α : Type} [Scalar α] [ExactSums α] (vehicle : Vehicle α) (goal : Pose α) :
    ∃ footprint, goal.placeRing (vehicle.footprint 0 0) = .ok footprint := by
  have hself : ∀ p : Point α, Point.agrees p p = true := by
    simp [Point.agrees, Scalar.agrees]
  simp [Pose.placeRing, Scalar.isFinite, ExactSums.bounded, Vehicle.footprint, Pose.place,
    Ring.ofPoints, hself]

variable [Faultless α] {net : RoadNetwork α} {rules : GoalRules α} {goal : Pose α}
  {preceding : List Int}

theorem exists_combined (hknown : ∀ id ∈ preceding, ∃ s, net.segment? id = some s) :
    ∃ region, net.combined preceding = .ok region := by
  obtain ⟨ss, hss⟩ : ∃ ss, preceding.mapM net.segment = .ok ss := by
    apply Fallible.exists_mapM
    intro id hid
    obtain ⟨s, hs⟩ := hknown id hid
    exact ⟨s, by simp [segment, hs]⟩
  obtain ⟨region, hregion⟩ := Region.exists_ofRings (ss.flatMap net.withShoulders)
  exact ⟨region, Fallible.bind_eq_ok.2 ⟨ss, hss, hregion⟩⟩

theorem exists_roomSearch {margin : α} (hn : net.Accepted)
    (hmargin : rules.searchMargin = .ok margin)
    (hknown : ∀ id ∈ preceding, ∃ s, net.segment? id = some s) {road : Segment α}
    (hroad : road ∈ net.segments) (footprint : Ring α) :
    ∃ fits, net.roomSearch rules road preceding footprint = .ok fits := by
  obtain ⟨region, hregion⟩ := exists_combined hknown
  have hlength : rules.searchLength = .ok (rules.vehicle.front + margin) := by
    rw [GoalRules.searchLength, hmargin]
    rfl
  obtain ⟨fits, hfits, -⟩ := footprintFits_eq_ok net (rules.vehicle.front + margin) footprint
    (hn.segment?_eq_some.2 ⟨hroad, rfl⟩) region
  exact ⟨fits, Fallible.bind_eq_ok.2 ⟨region, hregion, Fallible.bind_eq_ok.2 ⟨_, hlength, hfits⟩⟩⟩

theorem not_breaksOff [ExactSums α] {margin : α} (hn : net.Accepted)
    (hmargin : rules.searchMargin = .ok margin)
    (hknown : ∀ id ∈ preceding, ∃ s, net.segment? id = some s) (goal : Pose α) (fault : Fault) :
    ¬ net.BreaksOff rules goal preceding fault := by
  rintro ⟨road, hroad, hfault | ⟨-, footprint, -, hsearch⟩⟩
  · obtain ⟨footprint, hfootprint⟩ := exists_placeRing rules.vehicle goal
    cases hfootprint.symm.trans hfault
  · have hmem : road ∈ net.segments := (List.mem_filter.1 (goalRoad?_mem hroad)).1
    obtain ⟨fits, hfits⟩ := exists_roomSearch hn hmargin hknown hmem footprint
    cases hfits.symm.trans hsearch

end Exact

def crossingRules : GoalRules Rat :=
  ⟨⟨2, 1, 1, 1, 0, 0, 1⟩, .ok 45, true, .ok 2⟩

theorem clear_crossing : (crossing true).Clear ⟨20, 0⟩ := by
  have hsegments : (crossing true).segments.all (fun s => s.outline.contains ⟨20, 0⟩) = true := by
    decide +kernel
  constructor
  · intro s hs
    exact Or.inl ⟨s.outline, by simp, List.all_eq_true.1 hsegments s hs⟩
  · simp [crossing]
  · simp [crossing]

/-- In the middle of the crossing, a goal along the second road is admitted. -/
theorem crossing_admits : (0 : Rat) < epsilon ∧ (crossing true).Clear ⟨20, 0⟩ ∧
    (∀ s ∈ (crossing true).segmentsAt ⟨20, 0⟩,
      isNumber (candidate ⟨20, 0, 0, Rational.quarterTurn⟩ s).angle = true) ∧
    (crossing true).Admissible crossingRules ⟨20, 0, 0, Rational.quarterTurn⟩ [2] ∧
    ((crossing true).checkGoal crossingRules ⟨20, 0, 0, Rational.quarterTurn⟩
      [2]).failure = .none := by
  have hepsilon : (0 : Rat) < epsilon := by decide +kernel
  have hknown : ∀ id ∈ [2], ∃ s, (crossing true).segment? id = some s := by
    intro id hid
    apply Option.isSome_iff_exists.1
    obtain rfl := List.mem_singleton.1 hid
    rfl
  have hturn : ∀ s ∈ (crossing true).segmentsAt ⟨20, 0⟩,
      isNumber (candidate ⟨20, 0, 0, Rational.quarterTurn⟩ s).angle = true :=
    fun _ _ => ExactSums.isNumber _
  have hresult : ((crossing true).checkGoal crossingRules ⟨20, 0, 0, Rational.quarterTurn⟩
      [2]).report.result = .ok true := Fallible.ok_of_toOption (by decide +kernel)
  have hangle : crossingRules.maxAngle = .ok 45 := rfl
  have hmargin : crossingRules.searchMargin = .ok 2 := rfl
  obtain ⟨-, hanswers⟩ := checkGoal_result ⟨20, 0, 0, Rational.quarterTurn⟩ [2] hangle hepsilon
    clear_crossing hturn
  obtain ⟨admitted, hadmitted, hiff, hfailure⟩ :=
    hanswers (Or.inr (not_breaksOff (accepted_crossing true) hmargin hknown _))
  obtain rfl := Except.ok.inj (hresult.symm.trans hadmitted)
  exact ⟨hepsilon, clear_crossing, hturn, hiff.1 rfl, (hfailure .fresh).1.2 rfl⟩

/-! ## Goals that no answer fits -/

def levelRules : GoalRules Float :=
  ⟨⟨2, 1, 1, 1, 0, 0, 1⟩, .ok 45, true, .ok 2⟩

def farGoal : Pose Float := ⟨1e200, 1e200, 0, 0⟩

theorem clear_farGoal : levels.Clear farGoal.point := by
  constructor
  · intro s hs
    exact apart_of_unbounded (by decide +kernel) (levels_out_of_reach s hs)
  · simp [levels]
  · simp [levels]

def twistedSegment : Segment Float :=
  { levelRoad 2 [0, 40] with
    kind := .other
    leftBound := [⟨0, 8, 0⟩, ⟨40, 20, 0⟩]
    rightBound := [⟨0, 20, 0⟩, ⟨40, 8, 0⟩] }

def twisted : RoadNetwork Float := ⟨link [levelRoad 1 [0, 40], twistedSegment], [], [], 2⟩

theorem accepted_twisted : twisted.Accepted :=
  accepted_of_ascending (by decide +kernel) (by decide +kernel) [] [] 2

theorem edgesOf_twisted : Slab.edgesOf twistedSegment.outline =
    [⟨⟨0, 8⟩, ⟨40, 20⟩, 1⟩, ⟨⟨0, 20⟩, ⟨40, 8⟩, -1⟩] := by
  have hinjective : Function.Injective fun e : Slab.Edge =>
      (e.left.x, e.left.y, e.right.x, e.right.y, e.turn) := by
    rintro ⟨⟨_, _⟩, ⟨_, _⟩, _⟩ ⟨⟨_, _⟩, ⟨_, _⟩, _⟩ h
    simpa [and_assoc] using h
  apply List.map_injective_iff.2 hinjective
  decide +kernel

theorem windingsOf_twisted : Slab.windingsOf twistedSegment.outline = [1, -1] := by
  rw [Slab.windingsOf, edgesOf_twisted]
  cbv

theorem combined_twisted : twisted.combined [1, 2] = .error .badShape := by
  have hsound : Planar.isSound twistedSegment.outline = false := by
    change Slab.isSound twistedSegment.outline = false
    simp [Slab.isSound, windingsOf_twisted]
  have hcombined : twisted.combined [1, 2] =
      Region.ofRings [(levelRoad 1 [0, 40]).outline, twistedSegment.outline] := rfl
  rw [hcombined]
  simp [Region.ofRings, hsound]

theorem roadsAt_twisted : twisted.roadsAt ⟨20, -4⟩ = [levelRoad 1 [0, 40]] := by
  have hon : (levelRoad 1 [0, 40]).outline.contains ⟨20, -4⟩ = true := by decide +kernel
  have hroad : (levelRoad 1 [0, 40]).isRoad = true := rfl
  have hother : twistedSegment.isRoad = false := rfl
  have hsegments : twisted.segments = [levelRoad 1 [0, 40], twistedSegment] := rfl
  simp [roadsAt, segmentsAt, hsegments, List.filter_cons, hon, hroad, hother]

theorem clear_twisted : twisted.Clear ⟨20, -4⟩ := by
  have hat : levelRoad 1 [0, 40] ∈ twisted.roadsAt ⟨20, -4⟩ := by simp [roadsAt_twisted]
  have hroad := contains_of_mem_roadsAt _ hat
  have hother : epsilon ≤ twistedSegment.outline.distance ⟨20, -4⟩ := by decide +kernel
  constructor
  · intro s hs
    have hsegments : twisted.segments = [levelRoad 1 [0, 40], twistedSegment] := rfl
    rw [hsegments] at hs
    rcases List.mem_pair.1 hs with rfl | rfl
    · exact Or.inl ⟨_, by simp, hroad⟩
    · exact Or.inr (by simpa using hother)
  · simp [twisted]
  · simp [twisted]

theorem checkGoal_twisted : ∃ fault,
    (twisted.checkGoal levelRules ⟨20, -4, 0, 0⟩ [1, 2]).report.result = .error fault := by
  have hshoulder : twisted.isOnAlignedShoulder levelRules ⟨20, -4, 0, 0⟩ = .ok false :=
    isOnAlignedShoulder_of_all (List.forall_iff_forall_mem.1 ⟨rfl, rfl⟩)
  have hroad : twisted.goalRoad? ⟨20, -4, 0, 0⟩ = some (levelRoad 1 [0, 40]) :=
    goalRoad?_of_singleton rfl roadsAt_twisted
  rw [checkGoal, hshoulder]
  simp only [hroad]
  cases hfootprint : (⟨20, -4, 0, 0⟩ : Pose Float).placeRing
      (levelRules.vehicle.footprint 0 0) with
  | error fault => exact ⟨fault, rfl⟩
  | ok footprint =>
    have hroom : twisted.hasRoom levelRules ⟨20, -4, 0, 0⟩ (levelRoad 1 [0, 40]) [1, 2]
        footprint = .error .badShape := by
      rw [hasRoom_eq, roomSearch, combined_twisted]
      rfl
    exact ⟨.badShape, by simp only [checkAtRoad, hroom]; rfl⟩

/-- A goal at which the distances overflow is refused for want of a road, though there are two. A
goal on a road is neither admitted nor refused after a segment that crosses itself. -/
theorem farGoal_out_of_reach :
    (levels.Accepted ∧ levels.roads ≠ [] ∧ levels.Clear farGoal.point ∧
      (levels.checkGoal levelRules farGoal []).failure = .noRoadSegment) ∧
    twisted.Accepted ∧ twisted.Clear ⟨20, -4⟩ ∧ levelRoad 1 [0, 40] ∈ twisted.roadsAt ⟨20, -4⟩ ∧
      (∀ id ∈ [1, 2], ∃ s, twisted.segment? id = some s) ∧
      ∃ fault, (twisted.checkGoal levelRules ⟨20, -4, 0, 0⟩ [1, 2]).report.result =
        .error fault := by
  have hroads : levels.roads.isEmpty = false := rfl
  have hshoulder : levels.isOnAlignedShoulder levelRules farGoal = .ok false :=
    isOnAlignedShoulder_of_all (List.forall_iff_forall_mem.1 ⟨rfl, rfl⟩)
  have hroad : levels.goalRoad? farGoal = none := by
    rw [goalRoad?_eq_none]
    rintro ⟨s, hs, hbounded⟩
    cases hbounded.symm.trans (levels_out_of_reach s (List.mem_filter.1 hs).1)
  constructor
  · refine ⟨accepted_levels, by simpa using hroads, clear_farGoal, ?_⟩
    rw [checkGoal, hshoulder]
    simp only [hroad]
    rfl
  · have hknown : ∀ id ∈ [1, 2], ∃ s, twisted.segment? id = some s := by
      intro id hid
      apply Option.isSome_iff_exists.1
      rcases List.mem_pair.1 hid with rfl | rfl <;> rfl
    exact ⟨accepted_twisted, clear_twisted, by simp [roadsAt_twisted], hknown, checkGoal_twisted⟩

end LaneRoute.RoadNetwork
