import LaneRoute.Proofs.Goal.Verdict
import LaneRoute.Proofs.Network.Groups
import LaneRoute.Proofs.Network.Legs
import LaneRoute.Goal.Refine

/-!
# Checks and corrections that answer

What the check and the corrections of a goal need in order not to break off: settings that are
numbers, parking spaces with outlines and known segments. Where the goal lies does not matter.
-/

set_option autoImplicit false

namespace LaneRoute

/-! ## Corrections -/

section Sampling

variable {α : Type} [Scalar α] [ExactSums α]

theorem exists_resample (hcount : ∀ x : α, Scalar.isCountable x = true) (line : Polyline α)
    (resolution : α) : ∃ samples, line.resample resolution = .ok samples := by
  unfold Polyline.resample
  dsimp only
  split
  · exact ⟨_, rfl⟩
  · have hpieces : ∃ n, Polyline.pieceCount
        (Polyline.planarLength (Polyline.withoutRepeats line)) resolution = .ok n := by
      simp [Polyline.pieceCount, Scalar.isNumber, Scalar.isFinite, ExactSums.bounded, hcount]
    obtain ⟨n, hn⟩ := hpieces
    exact ⟨_, Fallible.bind_eq_ok.2 ⟨n, hn, rfl⟩⟩

end Sampling

namespace RoadNetwork

section Exact

variable {α : Type} [Planar α] [ExactSums α] {net : RoadNetwork α} {rules : GoalRules α}

theorem exists_refineLateral (hcount : ∀ x : α, Scalar.isCountable x = true) (net : RoadNetwork α)
    (vehicle : Vehicle α) (resolution : α) (goal : Pose α) :
    ∃ moved, net.refineLateral vehicle resolution goal = .ok moved := by
  unfold refineLateral
  split
  · exact ⟨goal, rfl⟩
  next s _ =>
    obtain ⟨line, hline⟩ := exists_resample hcount s.center resolution
    exact ⟨_, Fallible.map_eq_ok.2 ⟨line, hline, rfl⟩⟩

theorem exists_refineElevation (hcount : ∀ x : α, Scalar.isCountable x = true) {id : Int}
    (hid : net.isRoad id = true) (resolution : α) (goal : Pose α) :
    ∃ raised, net.refineElevation resolution goal id = .ok raised := by
  obtain ⟨s, hs, -⟩ := exists_segment hid
  obtain ⟨line, hline⟩ := exists_resample hcount s.center resolution
  exact ⟨_, Fallible.bind_eq_ok.2 ⟨s, segment_eq_ok.2 hs,
    Fallible.bind_eq_ok.2 ⟨line, hline, rfl⟩⟩⟩

/-! ## Checks -/

omit [ExactSums α] in
theorem exists_inParkingSpace {spaces : List (ParkingSpace α)}
    (h : ∀ space ∈ spaces, ∃ rings, space.area = .ok rings) (p : Point α) :
    ∃ inside, inParkingSpace spaces p = .ok inside := by
  induction spaces with
  | nil => exact ⟨false, rfl⟩
  | cons space rest ih =>
    obtain ⟨rings, hrings⟩ := h space (by simp)
    obtain ⟨inside, hinside⟩ := ih fun other hother => h other (by simp [hother])
    have hholds : space.holds p = .ok (isOnAny (rings.getD []) p) := by
      rw [ParkingSpace.holds, hrings]
      rfl
    rw [inParkingSpace, hholds]
    cases isOnAny (rings.getD []) p with
    | true => exact ⟨true, rfl⟩
    | false => exact ⟨inside, hinside⟩

omit [ExactSums α] in
theorem exists_isPlaced (hangle : ∃ angle, rules.maxAngle = .ok angle)
    (hspaces : ∀ space ∈ net.parkingSpaces, ∃ rings, space.area = .ok rings) (goal : Pose α)
    (road : Segment α) : ∃ placed, net.isPlaced rules goal road = .ok placed := by
  obtain ⟨angle, hangle⟩ := hangle
  obtain ⟨aligned, haligned, -⟩ := exists_isAligned hangle goal road
  obtain ⟨inside, hinside⟩ := exists_inParkingSpace hspaces goal.point
  unfold isPlaced
  rw [haligned, hinside]
  cases road.outline.isOn goal.point <;> cases aligned <;> cases inside <;> exact ⟨_, rfl⟩

variable [Faultless α] {preceding : List Int}

omit [ExactSums α] in
theorem exists_hasRoom (hn : net.Accepted) (hmargin : ∃ margin, rules.searchMargin = .ok margin)
    (hpath : ∀ id ∈ preceding, net.isRoad id = true) {road : Segment α} (hroad : road ∈ net.segments)
    (goal : Pose α) (footprint : Ring α) :
    ∃ room, net.hasRoom rules goal road preceding footprint = .ok room := by
  have hknown : ∀ id ∈ preceding, ∃ s, net.segment? id = some s := by
    intro id hid
    obtain ⟨s, hs, -⟩ := exists_segment (hpath id hid)
    exact ⟨s, hs⟩
  obtain ⟨margin, hmargin⟩ := hmargin
  obtain ⟨fits, hfits⟩ := exists_roomSearch hn hmargin hknown hroad footprint
  rw [hasRoom_eq, hfits]
  cases rules.checkFootprint with
  | false => exact ⟨true, rfl⟩
  | true => exact ⟨_, rfl⟩

theorem exists_checkGoal (hn : net.Accepted) (hangle : ∃ angle, rules.maxAngle = .ok angle)
    (hmargin : ∃ margin, rules.searchMargin = .ok margin)
    (hspaces : ∀ space ∈ net.parkingSpaces, ∃ rings, space.area = .ok rings)
    (hpath : ∀ id ∈ preceding, net.isRoad id = true) (goal : Pose α) :
    ∃ admissible, (net.checkGoal rules goal preceding).report.result = .ok admissible := by
  obtain ⟨angle, hnumber⟩ := hangle
  obtain ⟨on, hon⟩ := exists_isOnAlignedShoulder hnumber net goal
  unfold checkGoal
  rw [hon]
  cases on with
  | true => exact ⟨true, rfl⟩
  | false =>
    cases hroad : net.goalRoad? goal with
    | none => exact ⟨false, rfl⟩
    | some road =>
      have hmem : road ∈ net.segments := (List.mem_filter.1 (goalRoad?_mem hroad)).1
      obtain ⟨footprint, hfootprint⟩ := exists_placeRing rules.vehicle goal
      obtain ⟨room, hroom⟩ := exists_hasRoom hn hmargin hpath hmem goal footprint
      obtain ⟨placed, hplaced⟩ := exists_isPlaced ⟨angle, hnumber⟩ hspaces goal road
      simp only [hfootprint, checkAtRoad, hroom, hplaced]
      cases room with
      | false => exact ⟨false, rfl⟩
      | true =>
        cases placed with
        | false => exact ⟨false, rfl⟩
        | true => exact ⟨true, rfl⟩

end Exact

end RoadNetwork

end LaneRoute
