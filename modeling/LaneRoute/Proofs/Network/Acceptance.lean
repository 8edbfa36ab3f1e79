import LaneRoute.Proofs.Number.Rational
import LaneRoute.Proofs.Fallible
import LaneRoute.Network.Lateral
import Mathlib.Data.List.Nodup

/-!
# Accepted networks

What a network that was built without a fault is like: its ids ascend, so that an id names one
segment, and its segments have positive lengths. Closing the longitudinal references changes
nothing else about the segments.
-/

set_option autoImplicit false

namespace LaneRoute

variable {α : Type}

def Segment.bare (s : Segment α) : Segment α := { s with successors := [], predecessors := [] }

namespace RoadNetwork

/-! ## Linking -/

theorem bare_update {f : Segment α → Segment α} (hf : ∀ s, (f s).bare = s.bare) (id : Int)
    (segments : List (Segment α)) :
    (update id f segments).map Segment.bare = segments.map Segment.bare := by
  rw [update, List.map_map]
  apply List.map_congr_left
  intro s _
  by_cases hs : s.id = id
  · simp [hs, hf]
  · simp [hs]

theorem bare_foldl {step : List (Segment α) → Int → List (Segment α)}
    (hstep : ∀ segments id, (step segments id).map Segment.bare = segments.map Segment.bare)
    (ids : List Int) (segments : List (Segment α)) :
    (ids.foldl step segments).map Segment.bare = segments.map Segment.bare := by
  induction ids generalizing segments with
  | nil => rfl
  | cons id ids ih => rw [List.foldl_cons, ih, hstep]

theorem bare_link (segments : List (Segment α)) :
    (link segments).map Segment.bare = segments.map Segment.bare := by
  apply bare_foldl
  intro segments id
  have hpred : ∀ (segs : List (Segment α)) succ,
      (addPredecessor id succ segs).map Segment.bare = segs.map Segment.bare := by
    intro segs succ
    unfold addPredecessor
    exact bare_update (by intro s; rfl) succ segs
  have hsucc : ∀ (segs : List (Segment α)) pred,
      (addSuccessor id pred segs).map Segment.bare = segs.map Segment.bare := by
    intro segs pred
    unfold addSuccessor
    exact bare_update (by intro s; rfl) pred segs
  rw [linkOne, bare_foldl hsucc, bare_foldl hpred]

theorem ids_link (segments : List (Segment α)) :
    (link segments).map (·.id) = segments.map (·.id) := by
  have hids := congrArg (List.map (·.id)) (bare_link segments)
  rw [List.map_map, List.map_map] at hids
  exact hids

theorem exists_bare_of_mem_link {segments : List (Segment α)} {s : Segment α}
    (hs : s ∈ link segments) : ∃ t ∈ segments, t.bare = s.bare := by
  have hbare : s.bare ∈ (link segments).map Segment.bare := List.mem_map_of_mem hs
  rw [bare_link] at hbare
  exact List.mem_map.1 hbare

/-! ## Lookup -/

theorem exists_find? {segments : List (Segment α)} {id : Int} (h : id ∈ segments.map (·.id)) :
    ∃ s, find? id segments = some s := by
  apply Option.isSome_iff_exists.1
  simpa [find?] using h

theorem find?_of_mem {segments : List (Segment α)} (hids : (segments.map (·.id)).Nodup)
    {s : Segment α} (hs : s ∈ segments) : find? s.id segments = some s := by
  obtain ⟨t, ht⟩ := exists_find? (List.mem_map_of_mem hs)
  have hid : t.id = s.id := by simpa using List.find?_some ht
  rw [ht, List.inj_on_of_nodup_map hids (List.mem_of_find?_eq_some ht) hs hid]

theorem segment_eq_ok {net : RoadNetwork α} {id : Int} {s : Segment α} :
    net.segment id = .ok s ↔ net.segment? id = some s := by
  unfold segment
  cases net.segment? id <;> simp

/-! ## What a check finds -/

theorem firstRepeated?_eq_none {seen ids : List Int} (h : firstRepeated? seen ids = none) :
    ids.Nodup ∧ ∀ id ∈ ids, id ∉ seen := by
  induction ids generalizing seen with
  | nil => simp
  | cons id ids ih =>
    rw [firstRepeated?] at h
    split at h
    · simp at h
    next hid =>
      obtain ⟨hnodup, hfresh⟩ := ih h
      refine ⟨List.nodup_cons.2 ⟨fun hmem => hfresh id hmem (by simp), hnodup⟩, ?_⟩
      intro i hi
      rcases List.mem_cons.1 hi with rfl | hi
      · exact hid
      · exact fun hseen => hfresh i hi (by simp [hseen])

section Scalars

variable [Scalar α]

theorem check_eq_ok {segments : List (Segment α)} (h : check segments = .ok ()) :
    (segments.map (·.id)).Nodup ∧
      ∀ s ∈ segments, checkSegment (segments.map (·.id)) s = .ok () := by
  rw [check] at h
  split at h
  · simp at h
  next hnone => exact ⟨(firstRepeated?_eq_none hnone).1, Fallible.forM_eq_ok h⟩

theorem not_length_le_of_check {ids : List Int} {s : Segment α}
    (h : checkSegment ids s = .ok ()) : ¬ s.length ≤ 0 := by
  rw [checkSegment] at h
  split at h
  · simp at h
  next hlength => simp_all

/-! ## Accepted networks -/

/-- A network that segments were built into. -/
def Accepted (net : RoadNetwork α) : Prop :=
  ∃ segments spaces lots cost, build segments spaces lots cost = .ok net

theorem build_of_ascending {segments : List (Segment α)} (hcheck : (check segments).isOk)
    (hids : (segments.map (·.id)).Pairwise (· ≤ ·)) (spaces : List (ParkingSpace α))
    (lots : List (ParkingLot α)) (cost : α) :
    build segments spaces lots cost = .ok ⟨link segments, spaces, lots, cost⟩ := by
  have hsorted : (link segments).mergeSort (fun s t => decide (s.id ≤ t.id)) = link segments := by
    apply List.mergeSort_of_pairwise
    rw [← ids_link, List.pairwise_map] at hids
    simpa using hids
  cases hok : check segments with
  | error fault => simp [hok, Except.isOk, Except.toBool] at hcheck
  | ok u => simp [build, hok, hsorted, bind, Except.bind, pure, Except.pure]

theorem accepted_of_ascending {segments : List (Segment α)} (hcheck : (check segments).isOk)
    (hids : (segments.map (·.id)).Pairwise (· ≤ ·)) (spaces : List (ParkingSpace α))
    (lots : List (ParkingLot α)) (cost : α) : Accepted ⟨link segments, spaces, lots, cost⟩ :=
  ⟨segments, spaces, lots, cost, build_of_ascending hcheck hids spaces lots cost⟩

namespace Accepted

variable {net : RoadNetwork α}

theorem perm_link (ha : net.Accepted) :
    ∃ segments, check segments = .ok () ∧ net.segments.Perm (link segments) := by
  obtain ⟨segments, spaces, lots, cost, h⟩ := ha
  obtain ⟨_, hcheck, hnet⟩ := Fallible.bind_eq_ok.1 h
  refine ⟨segments, hcheck, ?_⟩
  rw [← Fallible.pure_eq_ok.1 hnet]
  exact List.mergeSort_perm _ _

theorem nodup_ids (ha : net.Accepted) : net.ids.Nodup := by
  obtain ⟨segments, hcheck, hperm⟩ := ha.perm_link
  have hids : net.ids.Perm ((link segments).map (·.id)) := hperm.map _
  rw [ids_link] at hids
  exact hids.nodup_iff.2 (check_eq_ok hcheck).1

theorem not_length_le (ha : net.Accepted) {s : Segment α} (hs : s ∈ net.segments) :
    ¬ s.length ≤ 0 := by
  obtain ⟨segments, hcheck, hperm⟩ := ha.perm_link
  obtain ⟨t, ht, hbare⟩ := exists_bare_of_mem_link (hperm.subset hs)
  have hlength : t.bare.length = s.bare.length := congrArg Segment.length hbare
  change t.length = s.length at hlength
  exact hlength ▸ not_length_le_of_check ((check_eq_ok hcheck).2 t ht)

theorem segment?_eq_some (ha : net.Accepted) {id : Int} {s : Segment α} :
    net.segment? id = some s ↔ s ∈ net.segments ∧ s.id = id := by
  constructor
  · intro h
    exact ⟨List.mem_of_find?_eq_some h, by simpa using List.find?_some h⟩
  · rintro ⟨hs, rfl⟩
    exact find?_of_mem ha.nodup_ids hs

theorem isRoad_iff (ha : net.Accepted) {id : Int} :
    net.isRoad id = true ↔ ∃ s ∈ net.roads, s.id = id := by
  rw [isRoad, Option.any_eq_true]
  constructor
  · rintro ⟨s, hs, hroad⟩
    obtain ⟨hmem, hid⟩ := ha.segment?_eq_some.1 hs
    exact ⟨s, List.mem_filter.2 ⟨hmem, hroad⟩, hid⟩
  · rintro ⟨s, hs, hid⟩
    obtain ⟨hmem, hroad⟩ := List.mem_filter.1 hs
    exact ⟨s, ha.segment?_eq_some.2 ⟨hmem, hid⟩, hroad⟩

theorem length_pos [ExactSums α] (ha : net.Accepted) {s : Segment α} (hs : s ∈ net.segments) :
    0 < s.length := not_le.1 (ha.not_length_le hs)

end Accepted

end Scalars

/-! ## A crossing -/

def plainRoad (id : Int) (left right : Polyline Rat) (successors : List Int) : Segment Rat where
  id := id
  kind := .road
  leftBound := left
  rightBound := right
  center := Segment.middle left right
  successors := successors
  predecessors := []
  left := ⟨none, .ofBool true, .ofBool false⟩
  right := ⟨none, .ofBool true, .ofBool false⟩
  drivable := .ofBool true

/-- Two straight roads that cross at a right angle. The second one is a successor of the first
or not. -/
def crossingRoads (linked : Bool) : List (Segment Rat) :=
  [plainRoad 1 [⟨0, 8, 0⟩, ⟨40, 8, 0⟩] [⟨0, -8, 0⟩, ⟨40, -8, 0⟩] (if linked then [2] else []),
   plainRoad 2 [⟨16, -20, 0⟩, ⟨16, 20, 0⟩] [⟨24, -20, 0⟩, ⟨24, 20, 0⟩] []]

def crossing (linked : Bool) : RoadNetwork Rat := ⟨link (crossingRoads linked), [], [], 2⟩

theorem accepted_crossing (linked : Bool) : (crossing linked).Accepted := by
  have hcheck : (check (crossingRoads linked)).isOk := by
    cases linked <;> decide +kernel
  have hids : ((crossingRoads linked).map (·.id)).Pairwise (· ≤ ·) := by
    simp [crossingRoads, plainRoad]
  exact accepted_of_ascending hcheck hids [] [] 2

end RoadNetwork

end LaneRoute
