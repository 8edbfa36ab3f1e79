import LaneRoute.Network.Lateral
import LaneRoute.Proofs.Fallible
import Mathlib.Data.List.Nodup

/-!
# Lanes beside roads

What a walk to the side of a road meets: roads only, and none of them twice. What the walks to
both sides meet is listed once, with the road itself between.
-/

set_option autoImplicit false

namespace LaneRoute.RoadNetwork

variable {α : Type}

theorem isRoad_of_besideRoad {net : RoadNetwork α} {side : Segment α → Side} {id next : Int}
    (h : net.besideRoad side id = some next) : net.isRoad next = true := by
  simp only [besideRoad, Option.bind_eq_bind, Option.bind_eq_some_iff] at h
  obtain ⟨s, -, n, -, h⟩ := h
  split at h
  next hn =>
    obtain rfl := Option.some.inj h
    simp only [Bool.and_eq_true] at hn
    exact hn.2
  next => simp at h

theorem isRoad_of_mem_lanesBeside {net : RoadNetwork α} {side : Segment α → Side}
    {visited : List Int} {id lane : Int} (h : lane ∈ net.lanesBeside side visited id) :
    net.isRoad lane = true := by
  fun_induction lanesBeside net side visited id with
  | case1 => simp at h
  | case2 => simp at h
  | case3 visited id next hnext _ ih =>
    rcases List.mem_cons.1 h with rfl | h
    · exact isRoad_of_besideRoad hnext
    · exact ih h

theorem isRoad_of_lateralNeighbors {net : RoadNetwork α} {id lane : Int} {lanes : List Int}
    (h : net.lateralNeighbors id = .ok lanes) (hid : net.isRoad id = true) (hlane : lane ∈ lanes) :
    net.isRoad lane = true := by
  obtain ⟨s, -, rfl⟩ := Fallible.map_eq_ok.1 h
  rcases List.mem_append.1 hlane with hlane | hlane
  · exact isRoad_of_mem_lanesBeside (List.mem_reverse.1 hlane)
  · rcases List.mem_cons.1 hlane with rfl | hlane
    · exact hid
    · exact isRoad_of_mem_lanesBeside (List.mem_filter.1 hlane).1

/-! ## No lane twice -/

theorem not_mem_of_mem_lanesBeside {net : RoadNetwork α} {side : Segment α → Side}
    {visited : List Int} {id lane : Int} (h : lane ∈ net.lanesBeside side visited id) :
    lane ∉ visited := by
  fun_induction lanesBeside net side visited id with
  | case1 => simp at h
  | case2 => simp at h
  | case3 visited id next _ hseen ih =>
    rcases List.mem_cons.1 h with rfl | h
    · exact hseen
    · exact fun hvisited => ih h (List.mem_cons_of_mem next hvisited)

theorem nodup_lanesBeside (net : RoadNetwork α) (side : Segment α → Side) (visited : List Int)
    (id : Int) : (net.lanesBeside side visited id).Nodup := by
  fun_induction lanesBeside net side visited id with
  | case1 => exact List.nodup_nil
  | case2 => exact List.nodup_nil
  | case3 visited id next _ _ ih =>
    refine List.nodup_cons.2 ⟨fun hagain => ?_, ih⟩
    exact not_mem_of_mem_lanesBeside hagain List.mem_cons_self

theorem nodup_lateralNeighbors {net : RoadNetwork α} {id : Int} {lanes : List Int}
    (h : net.lateralNeighbors id = .ok lanes) : lanes.Nodup := by
  obtain ⟨s, -, rfl⟩ := Fallible.map_eq_ok.1 h
  have hself : ∀ side, id ∉ net.lanesBeside side [id] id := fun side hmem =>
    not_mem_of_mem_lanesBeside hmem List.mem_cons_self
  refine List.Nodup.append (List.nodup_reverse.2 (nodup_lanesBeside _ _ _ _)) ?_ ?_
  · refine List.nodup_cons.2 ⟨fun hmem => ?_, (nodup_lanesBeside _ _ _ _).filter _⟩
    exact hself _ (List.mem_filter.1 hmem).1
  · intro lane hleft hright
    rw [List.mem_reverse] at hleft
    rcases List.mem_cons.1 hright with rfl | hright
    · exact hself _ hleft
    · simpa [hleft] using (List.mem_filter.1 hright).2

end LaneRoute.RoadNetwork
