import LaneRoute.Network.Basic

/-!
# Lateral neighbours

Lanes side by side. A walk to one side follows lanes of the same direction until there is
none or one comes a second time; the references need not be mutual or free of cycles.
-/

set_option autoImplicit false

namespace LaneRoute.RoadNetwork

variable {α : Type}

def besideRoad (net : RoadNetwork α) (side : Segment α → Side) (id : Int) : Option Int := do
  let s ← net.segment? id
  let neighbor ← (side s).neighbor
  if (side s).sameDirection.isSet && net.isRoad neighbor then some neighbor else none

theorem mem_ids_of_isRoad {net : RoadNetwork α} {id : Int} (h : net.isRoad id = true) :
    id ∈ net.ids := by
  simp only [isRoad, Option.any_eq_true_iff_get, segment?, find?] at h
  obtain ⟨hs, -⟩ := h
  obtain ⟨s, hs⟩ := Option.isSome_iff_exists.1 hs
  have hid := List.find?_some hs
  exact List.mem_map.2 ⟨s, List.mem_of_find?_eq_some hs, by simpa using hid⟩

theorem mem_ids_of_besideRoad {net : RoadNetwork α} {side : Segment α → Side} {id next : Int}
    (h : net.besideRoad side id = some next) : next ∈ net.ids := by
  simp only [besideRoad, Option.bind_eq_bind, Option.bind_eq_some_iff] at h
  obtain ⟨s, -, n, -, h⟩ := h
  split at h
  next hn =>
    simp only [Option.some.injEq] at h
    subst h
    simp only [Bool.and_eq_true] at hn
    exact mem_ids_of_isRoad hn.2
  next => simp at h

theorem unvisited_lt {ids visited : List Int} {id : Int} (hid : id ∈ ids) (hv : id ∉ visited) :
    (ids.filter (· ∉ id :: visited)).length < (ids.filter (· ∉ visited)).length := by
  induction ids with
  | nil => simp at hid
  | cons a rest ih =>
    have hle : (rest.filter (· ∉ id :: visited)).length ≤ (rest.filter (· ∉ visited)).length := by
      clear ih hid
      induction rest with
      | nil => simp
      | cons b rest ih =>
        simp only [List.filter_cons, List.mem_cons, not_or]
        by_cases hb : b ∈ visited <;> by_cases hbi : b = id <;> grind
    by_cases ha : a = id
    · subst ha
      simp only [List.filter_cons, List.mem_cons, true_or, not_true_eq_false, decide_false,
        hv, not_false_eq_true, decide_true, if_true, List.length_cons]
      simp only [List.mem_cons] at hle
      simp only [Bool.false_eq_true, if_false]
      omega
    · have hid : id ∈ rest := by
        rcases List.mem_cons.1 hid with h | h
        · exact absurd h.symm ha
        · exact h
      have := ih hid
      simp only [List.filter_cons, List.mem_cons, not_or] at this ⊢
      by_cases hav : a ∈ visited <;> simp_all

/-- The lanes met on the way to one side, the nearest first, without those visited before. -/
def lanesBeside (net : RoadNetwork α) (side : Segment α → Side) (visited : List Int)
    (id : Int) : List Int :=
  match _met : net.besideRoad side id with
  | none => []
  | some next =>
    if _seen : next ∈ visited then []
    else next :: lanesBeside net side (next :: visited) next
termination_by (net.ids.filter (· ∉ visited)).length
decreasing_by exact unvisited_lt (mem_ids_of_besideRoad _met) _seen

/-- A lane and all lanes of its direction beside it, from left to right. -/
def lateralNeighbors (net : RoadNetwork α) (id : Int) : Except Fault (List Int) :=
  (net.segment id).map fun _ =>
    let left := net.lanesBeside (·.left) [id] id
    let right := net.lanesBeside (·.right) [id] id
    left.reverse ++ id :: right.filter (· ∉ left)

def sideTarget? (net : RoadNetwork α) (side : Side) : Option Int :=
  side.neighbor.filter fun n => side.laneChange.isSet && side.sameDirection.isSet && net.isRoad n

def changeTargets (net : RoadNetwork α) (s : Segment α) : List Int :=
  (net.sideTarget? s.left).toList ++ (net.sideTarget? s.right).toList

def laneChangeNeighbors (net : RoadNetwork α) (id : Int) : Except Fault (List Int) :=
  (net.segment id).map net.changeTargets

/-- The shoulders that name a segment, ascending, and then those that only the segment itself
names. Nothing is known about unknown segments. -/
def adjacentShoulders (net : RoadNetwork α) (id : Int) : List (Segment α) :=
  match net.segment? id with
  | none => []
  | some s =>
    let naming := net.shoulders.filter fun t => id ∈ t.neighbors
    let named := s.neighbors.filter fun n => net.isShoulder n && n ∉ naming.map (·.id)
    naming ++ named.eraseDups.filterMap net.segment?

end LaneRoute.RoadNetwork
