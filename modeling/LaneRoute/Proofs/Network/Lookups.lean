import LaneRoute.Network.Routing
import LaneRoute.Proofs.Network.Validation

/-!
# Lookups

The queries of a network with each of their lookups: to look up an id that is not known is a
fault. In a network where every id that is named is known, no lookup that begins at a known id
leaves the known ones, and the queries have the answers of those that pass over unknown ids.
-/

set_option autoImplicit false

namespace LaneRoute.RoadNetwork

variable {α : Type}

theorem mem_ids_iff {net : RoadNetwork α} {id : Int} :
    id ∈ net.ids ↔ ∃ s, net.segment? id = some s := by
  constructor
  · exact exists_find?
  · rintro ⟨s, hs⟩
    have hid : s.id = id := by simpa using List.find?_some hs
    exact hid ▸ List.mem_map_of_mem (List.mem_of_find?_eq_some hs)

/-! ## Queries -/

def seekRoads (net : RoadNetwork α) (ids : List Int) : Except Fault (List (Segment α)) :=
  (ids.mapM net.segment).map (·.filter (·.isRoad))

def seekNamed (net : RoadNetwork α) (way : Way) (id : Int) : Except Fault (List (Segment α)) := do
  net.seekRoads ((← net.segment id).named way)

/-- The neighbor on a side, if it is a road. It is looked up only where it may be entered. -/
def seekBeside (net : RoadNetwork α) (permitted : Bool) (side : Side) :
    Except Fault (Option Int) :=
  match side.neighbor, permitted with
  | some n, true => (net.segment n).map fun t => if t.isRoad then some n else none
  | _, _ => .ok none

def seekTargets (net : RoadNetwork α) (s : Segment α) : Except Fault (List Int) := do
  let left ← net.seekBeside (s.left.laneChange.isSet && s.left.sameDirection.isSet) s.left
  let right ← net.seekBeside (s.right.laneChange.isSet && s.right.sameDirection.isSet) s.right
  return left.toList ++ right.toList

def seekChanges (net : RoadNetwork α) (id : Int) : Except Fault (List Int) := do
  net.seekTargets (← net.segment id)

theorem mem_ids_of_seekBeside {net : RoadNetwork α} {permitted : Bool} {side : Side} {id : Int}
    (h : net.seekBeside permitted side = .ok (some id)) : id ∈ net.ids := by
  unfold seekBeside at h
  split at h
  next n _ =>
    obtain ⟨t, ht, h⟩ := Fallible.map_eq_ok.1 h
    split at h
    · obtain rfl := Option.some.inj h
      exact mem_ids_iff.2 ⟨t, segment_eq_ok.1 ht⟩
    · cases h
  next => cases h

def seekLanes (net : RoadNetwork α) (side : Segment α → Side) (visited : List Int)
    (s : Segment α) : Except Fault (List Int) :=
  match _met : net.seekBeside (side s).sameDirection.isSet (side s) with
  | .error fault => .error fault
  | .ok none => .ok []
  | .ok (some next) =>
    if _seen : next ∈ visited then .ok []
    else
      match net.segment next with
      | .error fault => .error fault
      | .ok t => (seekLanes net side (next :: visited) t).map (next :: ·)
termination_by (net.ids.filter (· ∉ visited)).length
decreasing_by exact unvisited_lt (mem_ids_of_seekBeside _met) _seen

def seekLateral (net : RoadNetwork α) (id : Int) : Except Fault (List Int) := do
  let s ← net.segment id
  let left ← net.seekLanes (·.left) [id] s
  let right ← net.seekLanes (·.right) [id] s
  return left.reverse ++ id :: right.filter (· ∉ left)

section Graphs

variable [Scalar α]

def seekArcs (net : RoadNetwork α) (s : Segment α) : Except Fault (List (Arc α)) := do
  let following ← net.seekRoads s.successors
  let targets ← net.seekTargets s
  let ahead : List (Arc α) := following.map fun t => ⟨t.id, .successor, t.length⟩
  let aside : List (Arc α) := targets.map fun id => ⟨id, .laneChange, net.laneChangeCost⟩
  return (ahead ++ aside).foldl RoutingGraph.putArc []

def seekGraph (net : RoadNetwork α) : Except Fault (RoutingGraph α) :=
  net.roads.mapM fun s => (net.seekArcs s).map (s.id, ·)

end Graphs

/-! ## Answers -/

theorem mapM_segment {net : RoadNetwork α} {ids : List Int} (h : ∀ id ∈ ids, id ∈ net.ids) :
    ids.mapM net.segment = .ok (ids.filterMap net.segment?) := by
  induction ids with
  | nil => rfl
  | cons id ids ih =>
    obtain ⟨s, hs⟩ := mem_ids_iff.1 (h id (by simp))
    rw [List.mapM_cons, ih fun other hother => h other (by simp [hother])]
    simp [segment, hs, bind, Except.bind, pure, Except.pure]

theorem seekRoads_eq {net : RoadNetwork α} {ids : List Int} (h : ∀ id ∈ ids, id ∈ net.ids) :
    net.seekRoads ids = .ok (net.roadsAmong ids) := by
  rw [seekRoads, mapM_segment h]
  rfl

theorem seekBeside_eq {net : RoadNetwork α} {side : Side} (permitted : Bool)
    (h : ∀ id ∈ side.neighbor, id ∈ net.ids) :
    net.seekBeside permitted side =
      .ok (side.neighbor.filter fun id => permitted && net.isRoad id) := by
  unfold seekBeside
  cases hn : side.neighbor with
  | none => rfl
  | some n =>
    obtain ⟨t, ht⟩ := mem_ids_iff.1 (h n hn)
    cases permitted <;> by_cases hroad : t.isRoad = true <;>
      simp [segment, isRoad, ht, hroad, Except.map, Option.filter]

theorem besideRoad_eq {net : RoadNetwork α} {side : Segment α → Side} {id : Int} {s : Segment α}
    (hs : net.segment? id = some s) :
    net.besideRoad side id =
      (side s).neighbor.filter fun n => (side s).sameDirection.isSet && net.isRoad n := by
  rw [besideRoad, hs]
  cases hn : (side s).neighbor <;> simp [Option.filter, hn]

theorem seekLanes_eq {net : RoadNetwork α} {side : Segment α → Side}
    (h : ∀ s ∈ net.segments, ∀ id ∈ (side s).neighbor, id ∈ net.ids) {visited : List Int} {id : Int}
    {s : Segment α} (hs : net.segment? id = some s) :
    net.seekLanes side visited s = .ok (net.lanesBeside side visited id) := by
  have hbeside : ∀ id s, net.segment? id = some s →
      net.seekBeside (side s).sameDirection.isSet (side s) = .ok (net.besideRoad side id) := by
    intro id s hs
    rw [seekBeside_eq _ (h s (List.mem_of_find?_eq_some hs)), besideRoad_eq hs]
  induction visited, id using lanesBeside.induct net side generalizing s with
  | case1 visited id hnone =>
    have hmet := (hbeside id s hs).trans (congrArg _ hnone)
    have hlanes : net.lanesBeside side visited id = [] := by
      rw [lanesBeside]
      split <;> simp_all
    rw [seekLanes, hlanes]
    split <;> simp_all
  | case2 visited id next hnext hseen =>
    have hmet := (hbeside id s hs).trans (congrArg _ hnext)
    have hlanes : net.lanesBeside side visited id = [] := by
      rw [lanesBeside]
      split <;> simp_all
    rw [seekLanes, hlanes]
    split <;> simp_all
  | case3 visited id next hnext hseen ih =>
    have hmet := (hbeside id s hs).trans (congrArg _ hnext)
    have hlanes : net.lanesBeside side visited id =
        next :: net.lanesBeside side (next :: visited) next := by
      rw [lanesBeside]
      split <;> simp_all
    obtain ⟨t, ht⟩ := mem_ids_iff.1 (mem_ids_of_besideRoad hnext)
    have hlookup := segment_eq_ok.2 ht
    have hrest := ih ht
    rw [seekLanes, hlanes]
    split <;> simp_all [Except.map]

/-! ## Closed networks -/

namespace Closed

variable {net : RoadNetwork α}

theorem named (h : net.Closed) (way : Way) {s : Segment α} (hs : s ∈ net.segments) :
    ∀ id ∈ s.named way, id ∈ net.ids := by
  intro id hid
  apply h s hs
  cases way <;> simp_all [Segment.references, Segment.named]

theorem neighbors (h : net.Closed) {s : Segment α} (hs : s ∈ net.segments) :
    ∀ id ∈ s.neighbors, id ∈ net.ids := by
  intro id hid
  exact h s hs id (List.mem_append_right _ hid)

theorem left (h : net.Closed) : ∀ s ∈ net.segments, ∀ id ∈ s.left.neighbor, id ∈ net.ids := by
  intro s hs id hid
  exact h.neighbors hs id (by simp_all [Segment.neighbors])

theorem right (h : net.Closed) : ∀ s ∈ net.segments, ∀ id ∈ s.right.neighbor, id ∈ net.ids := by
  intro s hs id hid
  exact h.neighbors hs id (by simp_all [Segment.neighbors])

theorem seekNamed (h : net.Closed) (way : Way) {id : Int} {s : Segment α}
    (hs : net.segment? id = some s) :
    net.seekNamed way id = .ok (net.roadsAmong (s.named way)) := by
  have hroads := seekRoads_eq (h.named way (List.mem_of_find?_eq_some hs))
  exact Fallible.bind_eq_ok.2 ⟨s, segment_eq_ok.2 hs, hroads⟩

theorem seekTargets (h : net.Closed) {s : Segment α} (hs : s ∈ net.segments) :
    net.seekTargets s = .ok (net.changeTargets s) := by
  rw [RoadNetwork.seekTargets, seekBeside_eq _ (h.left s hs), seekBeside_eq _ (h.right s hs)]
  rfl

theorem seekLateral (h : net.Closed) {id : Int} {s : Segment α} (hs : net.segment? id = some s) :
    net.seekLateral id = net.lateralNeighbors id := by
  have hlookup := segment_eq_ok.2 hs
  simp [RoadNetwork.seekLateral, lateralNeighbors, hlookup, seekLanes_eq h.left hs,
    seekLanes_eq h.right hs, bind, Except.bind, Except.map, pure, Except.pure]

theorem seekGraph [Scalar α] (h : net.Closed) : net.seekGraph = .ok net.graph := by
  apply Fallible.mapM_eq_ok
  intro s hs
  have hmem := (List.mem_filter.1 hs).1
  have hroads := seekRoads_eq (h.named .ahead hmem)
  have harcs : net.seekArcs s = .ok (net.arcs s) :=
    Fallible.bind_eq_ok.2 ⟨_, hroads, Fallible.bind_eq_ok.2 ⟨_, h.seekTargets hmem, rfl⟩⟩
  rw [harcs]
  rfl

end Closed

end LaneRoute.RoadNetwork
