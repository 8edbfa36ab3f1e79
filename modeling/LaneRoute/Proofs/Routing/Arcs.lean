import LaneRoute.Proofs.Network.Validation
import LaneRoute.Proofs.Routing.Walk

/-!
# Arcs

The routing graph that some segments describe. Its nodes are the roads. Of two roads the first
has an arc to the second when one of them names the other as what follows or precedes it, or
when a lane change from the first to the second is permitted; where both is the case, the arc
is that of the lane change.
-/

set_option autoImplicit false

namespace LaneRoute

variable {α : Type}

namespace Segment

def FollowedBy (a b : Segment α) : Prop := b.id ∈ a.successors ∨ a.id ∈ b.predecessors

/-- A segment lies beside another one in the same direction, and changing to it is permitted. -/
def ChangesTo (a b : Segment α) : Prop :=
  ∃ side ∈ [a.left, a.right], side.neighbor = some b.id ∧ side.laneChange.isSet = true ∧
    side.sameDirection.isSet = true

theorem changesTo_congr {a b s t : Segment α} (hs : a.bare = s.bare) (ht : b.bare = t.bare) :
    a.ChangesTo b ↔ s.ChangesTo t := by
  have hsides := eq_of_bare (fun u => [u.left, u.right]) (fun _ => rfl) hs
  rw [ChangesTo, ChangesTo, hsides, id_eq_of_bare ht]

end Segment

namespace RoadNetwork

section Scalars

variable [Scalar α] {net : RoadNetwork α}

/-! ## The arcs that segments describe -/

section Build

variable {segments : List (Segment α)} {spaces : List (ParkingSpace α)}
  {lots : List (ParkingLot α)} {cost : α}

/-- A segment has another as a successor in the network when it did or when the other had it as
a predecessor. -/
theorem mem_namedBy_iff_followedBy (h : build segments spaces lots cost = .ok net)
    {a b : Segment α} (ha : a ∈ segments) (hb : b ∈ segments) :
    b.id ∈ namedBy .ahead net.segments a.id ↔ a.FollowedBy b := by
  obtain ⟨hcheck, hnamed⟩ := namedBy_build h
  have hids := (check_eq_ok hcheck).1
  rw [hnamed, mem_namedBy_link (known_of_checked hcheck), Tied]
  simp [namedBy, find?_of_mem hids ha, find?_of_mem hids hb, Segment.FollowedBy, Segment.named,
    Way.back]

/-- The arc from a road to another one that two segments describe at a cost of lane changes. -/
def Describes (cost : α) (a b : Segment α) (arc : Arc α) : Prop :=
  (a.ChangesTo b ∧ arc = ⟨b.id, .laneChange, cost⟩) ∨
    (¬ a.ChangesTo b ∧ a.FollowedBy b ∧ arc = ⟨b.id, .successor, b.length⟩)

theorem Describes.target_eq {a b : Segment α} {arc : Arc α} (h : Describes cost a b arc) :
    arc.target = b.id := by
  rcases h with ⟨-, rfl⟩ | ⟨-, -, rfl⟩ <;> rfl

/-- Between two segments of the network that were given as `a` and `b` the graph has the arc that
these describe. -/
theorem mem_arcs_iff_describes (h : build segments spaces lots cost = .ok net)
    {a b s t : Segment α} (ha : a ∈ segments) (hb : b ∈ segments) (hs : s ∈ net.segments)
    (ht : t ∈ net.segments) (has : a.bare = s.bare) (hbt : b.bare = t.bare)
    (hroad : t.isRoad = true) {arc : Arc α} (htarget : arc.target = t.id) :
    arc ∈ net.arcs s ↔ Describes cost a b arc := by
  have hn : net.Accepted := ⟨segments, spaces, lots, cost, h⟩
  have hida := Segment.id_eq_of_bare has
  have hidb := Segment.id_eq_of_bare hbt
  have hlength := Segment.eq_of_bare Segment.length (fun _ => rfl) hbt
  have hfound : net.segment? t.id = some t := hn.segment?_eq_some.2 ⟨ht, rfl⟩
  have hisRoad : net.isRoad t.id = true := by simp [isRoad, hfound, hroad]
  have hchange : t.id ∈ net.changeTargets s ↔ a.ChangesTo b := by
    rw [Segment.changesTo_congr has hbt, mem_changeTargets_iff, Segment.ChangesTo, and_iff_right hisRoad]
  have hfollow : t.id ∈ s.successors ↔ a.FollowedBy b := by
    rw [← mem_namedBy_iff_followedBy h ha hb, hida, hidb]
    exact iff_of_eq (congrArg (t.id ∈ ·) (named_eq_namedBy h .ahead hs))
  rw [mem_arcs_iff, mem_successorArcs_iff, htarget, hchange, hfollow, hfound,
    (perm_of_build h).2, Describes, hlength, hidb]
  simp [hroad]

theorem leaves_iff_describes (h : build segments spaces lots cost = .ok net) {id : Int}
    {arc : Arc α} : net.graph.Leaves id arc ↔ ∃ a ∈ segments, ∃ b ∈ segments,
      a.id = id ∧ a.isRoad = true ∧ b.isRoad = true ∧ Describes cost a b arc := by
  have hn : net.Accepted := ⟨segments, spaces, lots, cost, h⟩
  rw [leaves_graph hn]
  constructor
  · rintro ⟨s, hs, hroad, harc⟩
    obtain ⟨hmem, rfl⟩ := hn.segment?_eq_some.1 hs
    have hjoins : net.graph.Joins s.id arc.target := ⟨arc, (leaves_graph hn).2 ⟨s, hs, hroad, harc⟩, rfl⟩
    obtain ⟨t, ht, htarget⟩ := hn.isRoad_iff.1 ((joins_graph hn).1 hjoins).isRoad
    obtain ⟨htmem, htroad⟩ := List.mem_filter.1 ht
    obtain ⟨a, ha, has⟩ := exists_given h hmem
    obtain ⟨b, hb, hbt⟩ := exists_given h htmem
    refine ⟨a, ha, b, hb, Segment.id_eq_of_bare has, ?_, ?_, ?_⟩
    · rw [Segment.isRoad_eq_of_bare has, hroad]
    · rw [Segment.isRoad_eq_of_bare hbt, htroad]
    · exact (mem_arcs_iff_describes h ha hb hmem htmem has hbt htroad htarget.symm).1 harc
  · rintro ⟨a, ha, b, hb, rfl, haroad, hbroad, hdescribes⟩
    obtain ⟨s, hs, has⟩ := exists_linked h ha
    obtain ⟨t, ht, hbt⟩ := exists_linked h hb
    have hid : s.id = a.id := (Segment.id_eq_of_bare has).symm
    have htarget : arc.target = t.id := hdescribes.target_eq.trans (Segment.id_eq_of_bare hbt)
    have hsroad : s.isRoad = true := Segment.isRoad_eq_of_bare has ▸ haroad
    have htroad : t.isRoad = true := Segment.isRoad_eq_of_bare hbt ▸ hbroad
    refine ⟨s, hn.segment?_eq_some.2 ⟨hs, hid⟩, hsroad, ?_⟩
    exact (mem_arcs_iff_describes h ha hb hs ht has hbt htroad htarget).2 hdescribes

theorem mem_nodes_iff_given (h : build segments spaces lots cost = .ok net) {id : Int} :
    id ∈ net.graph.nodes ↔ ∃ s ∈ segments, s.isRoad = true ∧ s.id = id := by
  have hn : net.Accepted := ⟨segments, spaces, lots, cost, h⟩
  rw [mem_nodes_graph hn, hn.isRoad_iff]
  constructor
  · rintro ⟨s, hs, rfl⟩
    obtain ⟨hmem, hroad⟩ := List.mem_filter.1 hs
    obtain ⟨a, ha, has⟩ := exists_given h hmem
    exact ⟨a, ha, Segment.isRoad_eq_of_bare has ▸ hroad, Segment.id_eq_of_bare has⟩
  · rintro ⟨a, ha, hroad, rfl⟩
    obtain ⟨s, hs, has⟩ := exists_linked h ha
    exact ⟨s, List.mem_filter.2 ⟨hs, Segment.isRoad_eq_of_bare has ▸ hroad⟩, (Segment.id_eq_of_bare has).symm⟩

theorem joins_iff_given (h : build segments spaces lots cost = .ok net) {x y : Int} :
    net.graph.Joins x y ↔ ∃ a ∈ segments, ∃ b ∈ segments, a.id = x ∧ b.id = y ∧
      a.isRoad = true ∧ b.isRoad = true ∧ (a.FollowedBy b ∨ a.ChangesTo b) := by
  constructor
  · rintro ⟨arc, harc, rfl⟩
    obtain ⟨a, ha, b, hb, hid, haroad, hbroad, hdescribes⟩ := (leaves_iff_describes h).1 harc
    refine ⟨a, ha, b, hb, hid, hdescribes.target_eq.symm, haroad, hbroad, ?_⟩
    rcases hdescribes with ⟨hchange, -⟩ | ⟨-, hfollow, -⟩
    · exact Or.inr hchange
    · exact Or.inl hfollow
  · rintro ⟨a, ha, b, hb, hid, rfl, haroad, hbroad, hjoined⟩
    have hdescribed : ∃ arc, Describes cost a b arc := by
      by_cases hchange : a.ChangesTo b
      · exact ⟨_, Or.inl ⟨hchange, rfl⟩⟩
      · exact ⟨_, Or.inr ⟨hchange, hjoined.resolve_right hchange, rfl⟩⟩
    obtain ⟨arc, harc⟩ := hdescribed
    have hleaves := (leaves_iff_describes h).2 ⟨a, ha, b, hb, hid, haroad, hbroad, harc⟩
    exact ⟨arc, hleaves, harc.target_eq⟩

theorem nodup_targets {id : Int} {arcs : List (Arc α)} (h : net.graph.arcsOf? id = some arcs) :
    (arcs.map (·.target)).Nodup := by
  obtain ⟨s, -, he⟩ := List.mem_map.1 (RoutingGraph.mem_of_arcsOf? h)
  obtain ⟨-, rfl⟩ := Prod.mk.inj he
  exact RoutingGraph.nodup_foldl_putArc (by simp) _

theorem length_pos_of_given [FiniteSigns α] (h : build segments spaces lots cost = .ok net)
    {b : Segment α} (hb : b ∈ segments) : 0 < b.length := by
  obtain ⟨hfinite, hlength, -⟩ :=
    checkSegment_eq_ok_iff.1 ((check_eq_ok (namedBy_build h).1).2 b hb)
  exact FiniteSigns.pos_of_finite b.length hfinite hlength

/-- The routing graph of a network is the one that its segments describe: its nodes are their
roads, once each, and from a road to another there is at most one arc, namely the one described.
Its weights are not negative if that of lane changes is not, and those of successors are
positive. -/
theorem graph_described [FiniteSigns α] (h : build segments spaces lots cost = .ok net) :
    (net.graph.nodes.Nodup ∧
      ∀ id, id ∈ net.graph.nodes ↔ ∃ s ∈ segments, s.isRoad = true ∧ s.id = id) ∧
    (∀ a ∈ segments, ∀ b ∈ segments,
      b.id ∈ namedBy .ahead net.segments a.id ↔ a.FollowedBy b) ∧
    (∀ x y, net.graph.Joins x y ↔ ∃ a ∈ segments, ∃ b ∈ segments, a.id = x ∧ b.id = y ∧
      a.isRoad = true ∧ b.isRoad = true ∧ (a.FollowedBy b ∨ a.ChangesTo b)) ∧
    (∀ id arcs, net.graph.arcsOf? id = some arcs → (arcs.map (·.target)).Nodup) ∧
    (∀ id arc, net.graph.Leaves id arc ↔ ∃ a ∈ segments, ∃ b ∈ segments, a.id = id ∧
      a.isRoad = true ∧ b.isRoad = true ∧
      ((a.ChangesTo b ∧ arc = ⟨b.id, .laneChange, cost⟩) ∨
        (¬ a.ChangesTo b ∧ a.FollowedBy b ∧ arc = ⟨b.id, .successor, b.length⟩))) ∧
    (0 ≤ cost → ∀ id arc, net.graph.Leaves id arc → 0 ≤ arc.weight) ∧
    ∀ id arc, net.graph.Leaves id arc → arc.relation = .successor → 0 < arc.weight := by
  have hn : net.Accepted := ⟨segments, spaces, lots, cost, h⟩
  refine ⟨⟨?nodup, fun _ => mem_nodes_iff_given h⟩, ?linked, fun _ _ => joins_iff_given h,
    fun _ _ => nodup_targets, fun _ _ => leaves_iff_describes h, ?nonneg, ?positive⟩
  case nodup =>
    rw [nodes_graph]
    exact (List.filter_sublist.map _).nodup hn.nodup_ids
  case linked =>
    intro a ha b hb
    exact mem_namedBy_iff_followedBy h ha hb
  case nonneg =>
    intro hcost id arc harc
    obtain ⟨a, -, b, hb, -, -, -, hdescribes⟩ := (leaves_iff_describes h).1 harc
    rcases hdescribes with ⟨-, rfl⟩ | ⟨-, -, rfl⟩
    · exact hcost
    · exact FiniteSigns.nonneg_of_pos b.length (length_pos_of_given h hb)
  case positive =>
    intro id arc harc hrelation
    obtain ⟨a, -, b, hb, -, -, -, hdescribes⟩ := (leaves_iff_describes h).1 harc
    rcases hdescribes with ⟨-, rfl⟩ | ⟨-, -, rfl⟩
    · cases hrelation
    · exact length_pos_of_given h hb

end Build

end Scalars

/-! ## A merge -/

/-- A road that is followed by the one to its right, which also names another as preceding it. -/
def mergingRoads : List (Segment Rat) :=
  [{ plainRoad 1 [⟨0, 8, 0⟩, ⟨40, 8, 0⟩] [⟨0, 4, 0⟩, ⟨40, 4, 0⟩] [2] with
      right := ⟨some 2, .ofBool true, .ofBool true⟩ },
   { plainRoad 2 [⟨40, 4, 0⟩, ⟨70, 4, 0⟩] [⟨40, 0, 0⟩, ⟨70, 0, 0⟩] [] with predecessors := [3] },
   plainRoad 3 [⟨0, 4, 0⟩, ⟨40, 4, 0⟩] [⟨0, 0, 0⟩, ⟨40, 0, 0⟩] []]

/-- Of the two ways onto the road on the right the lane change counts, and the road that does not
name it leads to it at its length. -/
theorem merging_described : ∃ net, build mergingRoads [] [] 2 = .ok net ∧
    net.graph.Leaves 1 ⟨2, .laneChange, 2⟩ ∧ net.graph.Leaves 3 ⟨2, .successor, 30⟩ ∧
    ¬ net.graph.Leaves 1 ⟨2, .successor, 30⟩ := by
  have hbuilt : (build mergingRoads [] [] 2).toOption.isSome = true := by decide +kernel
  obtain ⟨net, hnet⟩ := Option.isSome_iff_exists.1 hbuilt
  have hbuild := Fallible.ok_of_toOption hnet
  obtain ⟨-, -, -, hsingle, harcs, -, -⟩ := graph_described hbuild
  have hlength : (mergingRoads[1]).length = 30 := by decide +kernel
  have hchange : mergingRoads[0].ChangesTo mergingRoads[1] :=
    ⟨mergingRoads[0].right, by simp, rfl, rfl, rfl⟩
  have hlane : net.graph.Leaves 1 ⟨2, .laneChange, 2⟩ :=
    (harcs 1 _).2 ⟨mergingRoads[0], by simp, mergingRoads[1], by simp, rfl, rfl, rfl,
      Or.inl ⟨hchange, rfl⟩⟩
  refine ⟨net, hbuild, hlane, ?_, ?_⟩
  · refine (harcs 3 _).2 ⟨mergingRoads[2], by simp, mergingRoads[1], by simp, rfl, rfl, rfl, ?_⟩
    refine Or.inr ⟨?_, Or.inr ?_, by rw [hlength]; rfl⟩
    · rintro ⟨side, hside, hnone, -⟩
      obtain rfl : side = ⟨none, .ofBool true, .ofBool false⟩ := by
        simpa [mergingRoads, plainRoad] using hside
      cases hnone
    · exact List.mem_singleton.2 rfl
  · rintro ⟨arcs, hfound, hother⟩
    obtain ⟨arcs', hfound', hmem⟩ := hlane
    obtain rfl := Option.some.inj (hfound.symm.trans hfound')
    have hsame := List.inj_on_of_nodup_map (hsingle 1 arcs hfound) hmem hother rfl
    cases hsame

end RoadNetwork

end LaneRoute
