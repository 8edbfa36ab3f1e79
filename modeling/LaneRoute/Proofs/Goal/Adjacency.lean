import LaneRoute.Proofs.Goal.Monotone
import LaneRoute.Proofs.Network.Shoulders

/-!
# Shoulders and the lanes beside them

Which shoulders are beside a segment: those that name it as their neighbor and those that it names
itself. One of the two sides is enough, both make no second entry, and the order in which the
segments were given makes no difference. The region of some lanes is put together from their
outlines and those of exactly these shoulders.
-/

set_option autoImplicit false

namespace LaneRoute

variable {α : Type}

def Segment.HasBeside (s t : Segment α) : Prop :=
  t.isShoulder = true ∧ (s.id ∈ t.neighbors ∨ t.id ∈ s.neighbors)

namespace RoadNetwork

variable {net : RoadNetwork α}

/-! ## Beside one segment -/

theorem nodup_adjacentShoulders (hids : net.ids.Nodup) (id : Int) :
    ((net.adjacentShoulders id).map (·.id)).Nodup := by
  cases hs : net.segment? id with
  | none => simp [adjacentShoulders, hs]
  | some s =>
    rw [map_id_adjacentShoulders hs]
    apply ShoulderIndex.nodup_appendAll
    exact hids.sublist ((List.filter_sublist.trans List.filter_sublist).map _)

theorem mem_adjacentShoulders_iff_id (hids : net.ids.Nodup) {id : Int} {t : Segment α} :
    t ∈ net.adjacentShoulders id ↔
      t ∈ net.segments ∧ t.id ∈ (net.adjacentShoulders id).map (·.id) := by
  constructor
  · intro h
    have hfound := segment?_of_mem_adjacentShoulders hids h
    exact ⟨List.mem_of_find?_eq_some hfound, List.mem_map_of_mem h⟩
  · rintro ⟨ht, hmem⟩
    obtain ⟨u, hu, hut⟩ := List.mem_map.1 hmem
    have hfound := segment?_of_mem_adjacentShoulders hids hu
    have hself : net.segment? t.id = some t := find?_of_mem hids ht
    rw [hut, hself] at hfound
    exact Option.some.inj hfound ▸ hu

/-- The first pass enters the shoulders that name a segment. -/
theorem mem_naming_iff (hids : net.ids.Nodup) {id : Int} {t : Segment α} (ht : t ∈ net.segments) :
    t.id ∈ (net.shoulders.filter fun t => id ∈ t.neighbors).map (·.id) ↔
      t.isShoulder = true ∧ id ∈ t.neighbors := by
  constructor
  · intro hmem
    obtain ⟨u, hu, hut⟩ := List.mem_map.1 hmem
    obtain ⟨hshoulder, hnames⟩ := List.mem_filter.1 hu
    obtain ⟨humem, hkind⟩ := List.mem_filter.1 hshoulder
    obtain rfl := List.inj_on_of_nodup_map hids humem ht hut
    exact ⟨hkind, of_decide_eq_true hnames⟩
  · rintro ⟨hkind, hnames⟩
    apply List.mem_map_of_mem
    exact List.mem_filter.2 ⟨List.mem_filter.2 ⟨ht, hkind⟩, decide_eq_true hnames⟩

/-- The second pass enters the shoulders that a segment names. -/
theorem mem_named_iff (hids : net.ids.Nodup) {s t : Segment α} (ht : t ∈ net.segments) :
    t.id ∈ s.neighbors.filter net.isShoulder ↔ t.isShoulder = true ∧ t.id ∈ s.neighbors := by
  have hself : net.segment? t.id = some t := find?_of_mem hids ht
  rw [List.mem_filter, isShoulder, hself, Option.any_some, and_comm]

theorem mem_adjacentShoulders (hids : net.ids.Nodup) {id : Int} {s t : Segment α}
    (hs : net.segment? id = some s) :
    t ∈ net.adjacentShoulders id ↔ t ∈ net.segments ∧ s.HasBeside t := by
  have hid : s.id = id := by simpa using List.find?_some hs
  rw [mem_adjacentShoulders_iff_id hids, and_congr_right_iff]
  intro ht
  rw [map_id_adjacentShoulders hs, ShoulderIndex.mem_appendAll, mem_naming_iff hids ht,
    mem_named_iff hids ht, ← and_or_left, ← hid]
  rfl

/-! ## Orders of segments -/

section Built

variable [Scalar α] {segments others : List (Segment α)} {spaces : List (ParkingSpace α)}
  {lots : List (ParkingLot α)} {cost : α} {other : RoadNetwork α}

theorem ascending_of_build (h : build segments spaces lots cost = .ok net) :
    net.segments.Pairwise fun s t => s.id ≤ t.id := by
  obtain ⟨_, -, hnet⟩ := Fallible.bind_eq_ok.1 h
  have hsorted : ((link segments).mergeSort fun s t => decide (s.id ≤ t.id)).Pairwise
      fun s t => decide (s.id ≤ t.id) = true := by
    apply List.pairwise_mergeSort
    · intro s t u hst htu
      simp only [decide_eq_true_eq] at *
      exact hst.trans htu
    · intro s t
      simpa using le_total s.id t.id
  rw [← Fallible.pure_eq_ok.1 hnet]
  simpa only [decide_eq_true_eq] using hsorted

theorem perm_core_of_build (h : build segments spaces lots cost = .ok net) :
    (net.segments.map core).Perm (segments.map core) := by
  have hbare := congrArg (List.map fun s => { s with spelling := {} }) (bare_link segments)
  rw [List.map_map, List.map_map] at hbare
  exact hbare ▸ (perm_of_build h).1.map core

theorem cores_eq_of_perm (h : build segments spaces lots cost = .ok net)
    (hother : build others spaces lots cost = .ok other) (hperm : others.Perm segments) :
    other.cores = net.cores := by
  have hn : net.Accepted := ⟨segments, spaces, lots, cost, h⟩
  have hcores : (other.segments.map core).Perm (net.segments.map core) :=
    (perm_core_of_build hother).trans ((hperm.map core).trans (perm_core_of_build h).symm)
  have hids : ((net.segments.map core).map (·.id)).Nodup := by
    rw [List.map_map]
    exact hn.nodup_ids
  have hascending : ∀ {n : RoadNetwork α}, (n.segments.Pairwise fun s t => s.id ≤ t.id) →
      (n.segments.map core).Pairwise fun s t => s.id ≤ t.id := fun hn => List.pairwise_map.2 hn
  have hsegments : other.segments.map core = net.segments.map core := by
    refine hcores.eq_of_pairwise ?_ (hascending (ascending_of_build hother))
      (hascending (ascending_of_build h))
    intro s t hs ht hst hts
    exact List.inj_on_of_nodup_map hids (hcores.subset hs) ht (le_antisymm hst hts)
  exact congrArg (fun segments => RoadNetwork.mk segments [] [] (0 : α)) hsegments

end Built

/-! ## Beside several segments -/

def Spans (net : RoadNetwork α) (ids : List Int) (s : Segment α) : Prop :=
  s ∈ net.segments ∧ (s.id ∈ ids ∨ ∃ lane ∈ net.segments, lane.id ∈ ids ∧ lane.HasBeside s)

section Regions

variable [Planar α] {ids : List Int}

theorem combined_eq_ofRings (hn : net.Accepted) (h : ∀ id ∈ ids, id ∈ net.ids) :
    ∃ rings, net.combined ids = Region.ofRings rings ∧
      ∀ ring, ring ∈ rings ↔ ∃ s, net.Spans ids s ∧ ring = s.outline := by
  refine ⟨(ids.filterMap net.segment?).flatMap net.withShoulders, ?_, fun ring => ?_⟩
  · rw [combined, mapM_segment h]
    rfl
  · constructor
    · intro hring
      obtain ⟨lane, hlane, hring⟩ := List.mem_flatMap.1 hring
      obtain ⟨id, hid, hfind⟩ := List.mem_filterMap.1 hlane
      obtain ⟨hmem, rfl⟩ := hn.segment?_eq_some.1 hfind
      rcases List.mem_cons.1 hring with rfl | hring
      · exact ⟨lane, ⟨hmem, Or.inl hid⟩, rfl⟩
      · obtain ⟨t, ht, rfl⟩ := List.mem_map.1 hring
        obtain ⟨htmem, hbeside⟩ := (mem_adjacentShoulders hn.nodup_ids hfind).1 ht
        exact ⟨t, ⟨htmem, Or.inr ⟨lane, hmem, hid, hbeside⟩⟩, rfl⟩
    · rintro ⟨s, ⟨hs, hid | ⟨lane, hlane, hid, hbeside⟩⟩, rfl⟩
      · have hfind := hn.segment?_eq_some.2 ⟨hs, rfl⟩
        exact List.mem_flatMap.2 ⟨s, List.mem_filterMap.2 ⟨s.id, hid, hfind⟩, List.mem_cons_self⟩
      · have hfind := hn.segment?_eq_some.2 ⟨hlane, rfl⟩
        have ht := (mem_adjacentShoulders hn.nodup_ids hfind).2 ⟨hs, hbeside⟩
        exact List.mem_flatMap.2 ⟨lane, List.mem_filterMap.2 ⟨lane.id, hid, hfind⟩,
          List.mem_cons_of_mem _ (List.mem_map_of_mem ht)⟩

/-- In a network that was built, the shoulders that are listed for a segment are those that name it
or that it names, each of them once. The index finds them, filled from the segments in the order
in which they were given; any other order makes a network that lists the same ones. So the region
of some lanes is that of their outlines and those of exactly these shoulders, and where areas are
sets of points it is the union of these sets. -/
theorem build_shoulders {segments : List (Segment α)} {spaces : List (ParkingSpace α)}
    {lots : List (ParkingLot α)} {cost : α} (h : build segments spaces lots cost = .ok net) :
    (∀ id s, net.segment? id = some s → ((net.adjacentShoulders id).map (·.id)).Nodup ∧
      ∀ t, t ∈ net.adjacentShoulders id ↔ t ∈ net.segments ∧ s.HasBeside t) ∧
    (∃ index, net.indexShoulders (link segments) = .ok index ∧
      ∀ id ∈ net.ids, net.seekShoulders index id = .ok (net.adjacentShoulders id)) ∧
    (∀ others : List (Segment α), others.Perm segments →
      ∃ other, build others spaces lots cost = .ok other ∧
        ∀ id, (other.adjacentShoulders id).map core = (net.adjacentShoulders id).map core) ∧
    ∀ ids : List Int, (∀ id ∈ ids, id ∈ net.ids) →
      (∃ rings, net.combined ids = Region.ofRings rings ∧
        ∀ ring, ring ∈ rings ↔ ∃ s, net.Spans ids s ∧ ring = s.outline) ∧
      ∀ [PointSets α], ∃ region, net.combined ids = .ok region ∧
        ∀ p, p ∈ region.points ↔ ∃ s, net.Spans ids s ∧ p ∈ PointSets.points s.outline := by
  have hn : net.Accepted := ⟨segments, spaces, lots, cost, h⟩
  refine ⟨?listed, ?indexed, ?order, ?region⟩
  case listed =>
    intro id s hs
    exact ⟨nodup_adjacentShoulders hn.nodup_ids id, fun t => mem_adjacentShoulders hn.nodup_ids hs⟩
  case indexed =>
    obtain ⟨index, hindex, -, hbeside⟩ :=
      exists_indexShoulders (closed_of_build h) hn.nodup_ids (perm_of_build h).1.symm
    exact ⟨index, hindex, fun id hid => seekShoulders_eq hn.nodup_ids (hbeside id hid)⟩
  case order =>
    intro others hperm
    obtain ⟨_, hcheck, -⟩ := Fallible.bind_eq_ok.1 h
    obtain ⟨other, hother⟩ : ∃ other, build others spaces lots cost = .ok other :=
      ⟨_, Fallible.bind_eq_ok.2 ⟨(), check_perm hcheck hperm, rfl⟩⟩
    refine ⟨other, hother, fun id => ?_⟩
    rw [← adjacentShoulders_cores, ← adjacentShoulders_cores, cores_eq_of_perm h hother hperm]
  case region =>
    intro ids hids
    obtain ⟨rings, hrings, hmem⟩ := combined_eq_ofRings hn hids
    refine ⟨⟨rings, hrings, hmem⟩, ?_⟩
    intro _
    obtain ⟨region, hregion⟩ := Region.exists_ofRings rings
    refine ⟨region, hrings.trans hregion, fun p => ?_⟩
    rw [Region.points_ofRings hregion, Region.mem_ground]
    constructor
    · rintro ⟨ring, hring, hp⟩
      obtain ⟨s, hs, rfl⟩ := (hmem ring).1 hring
      exact ⟨s, hs, hp⟩
    · rintro ⟨s, hs, hp⟩
      exact ⟨s.outline, (hmem s.outline).2 ⟨s, hs, rfl⟩, hp⟩

end Regions

/-! ## Shoulders on both sides -/

/-- A road between two shoulders, of which the left one names the road and the right one is named
by it. The right shoulder and one more beside it name each other. -/
def flankedLanes : List (Segment Rat) :=
  let lane := fun (id : Int) (low : Rat) =>
    plainRoad id [⟨0, low + 4, 0⟩, ⟨40, low + 4, 0⟩] [⟨0, low, 0⟩, ⟨40, low, 0⟩] []
  let beside := fun id : Int => (⟨some id, .ofBool true, .ofBool false⟩ : Side)
  [{ lane 1 0 with right := beside 2 },
   { lane 2 (-4) with kind := .shoulder, right := beside 3 },
   { lane 3 (-8) with kind := .shoulder, left := beside 2 },
   { lane 4 4 with kind := .shoulder, right := beside 1 }]

def flanked : RoadNetwork Rat := ⟨link flankedLanes, [], [], 2⟩

theorem build_flankedLanes : build flankedLanes [] [] 2 = .ok flanked := by
  have hcheck : (check flankedLanes).isOk := by decide +kernel
  have hids : (flankedLanes.map (·.id)).Pairwise (· ≤ ·) := by simp [flankedLanes, plainRoad]
  exact build_of_ascending hcheck hids [] [] 2

/-- Both shoulders are listed for the road, whichever side says so, and they are when the lanes are
given in the reverse order. -/
theorem flanked_shoulders : build flankedLanes [] [] 2 = .ok flanked ∧
    ((flanked.adjacentShoulders 1).map (·.id)).Nodup ∧
    (flanked.adjacentShoulders 1).map (·.id) = [4, 2] ∧
    ∃ other, build flankedLanes.reverse [] [] 2 = .ok other ∧
      (other.adjacentShoulders 1).map (·.id) = [4, 2] := by
  obtain ⟨hlisted, -, horder, -⟩ := build_shoulders build_flankedLanes
  have hknown : (flanked.segment? 1).isSome = true := by decide
  obtain ⟨s, hs⟩ := Option.isSome_iff_exists.1 hknown
  have hids : (flanked.adjacentShoulders 1).map (·.id) = [4, 2] := by decide
  obtain ⟨other, hother, hsame⟩ := horder flankedLanes.reverse (List.reverse_perm _)
  refine ⟨build_flankedLanes, (hlisted 1 s hs).1, hids, other, hother, ?_⟩
  have hcores := congrArg (List.map (·.id)) (hsame 1)
  rw [List.map_map, List.map_map] at hcores
  exact hcores.trans hids

end RoadNetwork

end LaneRoute
