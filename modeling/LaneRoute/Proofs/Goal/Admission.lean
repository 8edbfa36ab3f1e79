import LaneRoute.Proofs.Network.Nearest
import LaneRoute.Goal.Check

/-!
# Admitted goals

A goal that is admitted is parked or stands on a road and along it. The road is the one that
the goal was checked against; whether a route leads over it is not asked.
-/

set_option autoImplicit false

namespace LaneRoute.RoadNetwork

variable {α : Type} [Planar α]

def Along (rules : GoalRules α) (goal : Pose α) (s : Segment α) : Prop :=
  ∃ limit, rules.maxAngle = .ok limit ∧
    Angle.between (s.headingAt goal.point) goal.yaw < Angle.ofDegrees limit

/-- A goal is on a shoulder and along it, in a parking space or in a parking lot. -/
def Parked (net : RoadNetwork α) (rules : GoalRules α) (goal : Pose α) : Prop :=
  (∃ s ∈ net.shouldersAt goal.point, Along rules goal s) ∨
    (∃ space ∈ net.parkingSpaces, space.holds goal.point = .ok true) ∨
    ∃ lot ∈ net.parkingLots, lot.holds goal.point = true

theorem isAligned_eq_ok {rules : GoalRules α} {goal : Pose α} {s : Segment α} :
    isAligned rules goal s = .ok true ↔ Along rules goal s := by
  constructor
  · intro h
    obtain ⟨limit, hlimit, haligned⟩ := Fallible.bind_eq_ok.1 h
    exact ⟨limit, hlimit, of_decide_eq_true (Fallible.pure_eq_ok.1 haligned)⟩
  · rintro ⟨limit, hlimit, haligned⟩
    exact Fallible.bind_eq_ok.2 ⟨limit, hlimit, Fallible.pure_eq_ok.2 (decide_eq_true haligned)⟩

instance (rules : GoalRules α) (goal : Pose α) (s : Segment α) : Decidable (Along rules goal s) :=
  decidable_of_iff ((isAligned rules goal s).toOption = some true)
    ⟨fun h => isAligned_eq_ok.1 (Fallible.ok_of_toOption h), fun h => by
      rw [isAligned_eq_ok.2 h]; rfl⟩

theorem exists_isAligned {rules : GoalRules α} {angle : α} (hangle : rules.maxAngle = .ok angle)
    (goal : Pose α) (s : Segment α) :
    ∃ aligned, isAligned rules goal s = .ok aligned ∧ (aligned = true ↔ Along rules goal s) := by
  obtain ⟨aligned, haligned⟩ : ∃ aligned, isAligned rules goal s = .ok aligned :=
    ⟨_, Fallible.bind_eq_ok.2 ⟨angle, hangle, rfl⟩⟩
  refine ⟨aligned, haligned, ?_⟩
  rw [← isAligned_eq_ok, haligned, Except.ok.injEq]

theorem exists_isOnAlignedShoulder {rules : GoalRules α} {angle : α}
    (hangle : rules.maxAngle = .ok angle) (net : RoadNetwork α) (goal : Pose α) :
    ∃ on, net.isOnAlignedShoulder rules goal = .ok on := by
  unfold isOnAlignedShoulder
  split
  next s _ =>
    obtain ⟨aligned, haligned, -⟩ := exists_isAligned hangle goal s
    exact ⟨aligned, haligned⟩
  next => exact ⟨false, rfl⟩

theorem exists_of_inParkingSpace {spaces : List (ParkingSpace α)} {p : Point α}
    (h : inParkingSpace spaces p = .ok true) : ∃ space ∈ spaces, space.holds p = .ok true := by
  induction spaces with
  | nil => cases h
  | cons space spaces ih =>
    obtain ⟨held, hheld, hrest⟩ := Fallible.bind_eq_ok.1 h
    cases held with
    | true => exact ⟨space, by simp, hheld⟩
    | false =>
      obtain ⟨other, hother, hholds⟩ := ih hrest
      exact ⟨other, by simp [hother], hholds⟩

theorem parked_of_isOnAlignedShoulder {net : RoadNetwork α} {rules : GoalRules α} {goal : Pose α}
    (h : net.isOnAlignedShoulder rules goal = .ok true) : net.Parked rules goal := by
  unfold isOnAlignedShoulder at h
  split at h
  next s hs => exact Or.inl ⟨s, closest?_mem hs, isAligned_eq_ok.1 h⟩
  next => cases h

theorem isPlaced_eq_ok {net : RoadNetwork α} {rules : GoalRules α} {goal : Pose α}
    {road : Segment α} (h : net.isPlaced rules goal road = .ok true) :
    (road.outline.isOn goal.point = true ∧ Along rules goal road) ∨ net.Parked rules goal := by
  obtain ⟨onRoad, honRoad, hrest⟩ := Fallible.bind_eq_ok.1 h
  cases onRoad with
  | true =>
    split at honRoad
    next hon => exact Or.inl ⟨hon, isAligned_eq_ok.1 honRoad⟩
    next => cases honRoad
  | false =>
    obtain ⟨inSpace, hspace, hlot⟩ := Fallible.bind_eq_ok.1 hrest
    cases inSpace with
    | true => exact Or.inr (Or.inr (Or.inl (exists_of_inParkingSpace hspace)))
    | false =>
      have hany : inParkingLot net.parkingLots goal.point = true := Except.ok.inj hlot
      exact Or.inr (Or.inr (Or.inr (List.any_eq_true.1 hany)))

theorem goalRoad?_mem {net : RoadNetwork α} {goal : Pose α} {road : Segment α}
    (h : net.goalRoad? goal = some road) : road ∈ net.roads := by
  rw [goalRoad?] at h
  cases hat : closest? (net.roadsAt goal.point) goal with
  | some s =>
    obtain rfl : s = road := by simpa [hat] using h
    exact (mem_roadsAt.1 (closest?_mem hat)).1
  | none => exact nearestRoad?_mem (by simpa [hat] using h)

theorem goalRoad?_of_singleton {net : RoadNetwork α} {goal : Pose α} {s : Segment α}
    (hzero : Scalar.isBounded (0 : α) = true) (hs : net.roadsAt goal.point = [s]) :
    net.goalRoad? goal = some s := by
  have hat : s ∈ net.roadsAt goal.point := by simp [hs]
  rw [goalRoad?, hs, closest?_singleton hzero (mem_roadsAt.1 hat).2]
  rfl

theorem checkGoal_eq_true_iff {net : RoadNetwork α} {rules : GoalRules α} {goal : Pose α}
    {preceding : List Int} :
    (net.checkGoal rules goal preceding).report.result = .ok true ↔
      net.isOnAlignedShoulder rules goal = .ok true ∨
      net.isOnAlignedShoulder rules goal = .ok false ∧ ∃ road footprint,
        net.goalRoad? goal = some road ∧
        goal.placeRing (rules.vehicle.footprint 0 0) = .ok footprint ∧
        net.hasRoom rules goal road preceding footprint = .ok true ∧
        net.isPlaced rules goal road = .ok true := by
  unfold checkGoal
  rcases net.isOnAlignedShoulder rules goal with fault | _ | _
  · simp [Verdict.broken]
  · cases net.goalRoad? goal with
    | none => simp [Verdict.refused]
    | some road =>
      cases goal.placeRing (rules.vehicle.footprint 0 0) with
      | error fault => simp [Verdict.broken]
      | ok footprint =>
        simp only [checkAtRoad, false_or, true_and, Option.some.injEq,
          Except.ok.injEq, Bool.false_eq_true, exists_eq_left', exists_and_left]
        rcases net.hasRoom rules goal road preceding footprint with fault | _ | _
        · simp [Verdict.broken]
        · simp [Verdict.refused]
        · rcases net.isPlaced rules goal road with fault | _ | _ <;>
            simp [Verdict.broken, Verdict.refused, Verdict.accepted]
  · simp [Verdict.accepted]

theorem checkGoal_admits {net : RoadNetwork α} {rules : GoalRules α} {goal : Pose α}
    {preceding : List Int} (h : (net.checkGoal rules goal preceding).report.result = .ok true) :
    net.Parked rules goal ∨ ∃ road, net.goalRoad? goal = some road ∧
      road.outline.isOn goal.point = true ∧ Along rules goal road := by
  rcases checkGoal_eq_true_iff.1 h with hshoulder | ⟨-, road, footprint, hroad, -, -, hplaced⟩
  · exact Or.inl (parked_of_isOnAlignedShoulder hshoulder)
  · rcases isPlaced_eq_ok hplaced with ⟨hon, halong⟩ | hparked
    · exact Or.inr ⟨road, hroad, hon, halong⟩
    · exact Or.inl hparked

theorem not_parked_crossing (linked : Bool) (rules : GoalRules Rat) (goal : Pose Rat) :
    ¬ (crossing linked).Parked rules goal := by
  rintro (⟨s, hs, -⟩ | ⟨space, hspace, -⟩ | ⟨lot, hlot, -⟩)
  · have hroads : (crossing linked).segments.all (fun s => !s.isShoulder) = true := by
      cases linked <;> decide +kernel
    obtain ⟨hat, hshoulder⟩ := List.mem_filter.1 hs
    have hroad := List.all_eq_true.1 hroads s (List.mem_filter.1 hat).1
    simp [hshoulder] at hroad
  · simp [crossing] at hspace
  · simp [crossing] at hlot

end LaneRoute.RoadNetwork
