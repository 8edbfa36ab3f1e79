import LaneRoute.Proofs.Network.Acceptance
import LaneRoute.Network.Routing
import LaneRoute.Network.ShortestPath
import Mathlib.Data.List.Chain

/-!
# Walks

The walks of a routing graph, and what the arcs of a network's graph are: an arc leads from a
road to a road that follows it or that a permitted lane change reaches.
-/

set_option autoImplicit false

namespace LaneRoute

variable {α : Type}

namespace RoutingGraph

def Leaves (g : RoutingGraph α) (id : Int) (arc : Arc α) : Prop :=
  ∃ arcs, g.arcsOf? id = some arcs ∧ arc ∈ arcs

def Joins (g : RoutingGraph α) (id next : Int) : Prop := ∃ arc, g.Leaves id arc ∧ arc.target = next

def Closed (g : RoutingGraph α) : Prop := ∀ id arc, g.Leaves id arc → arc.target ∈ g.nodes

theorem arcsOf?_isSome_iff {g : RoutingGraph α} {id : Int} :
    (g.arcsOf? id).isSome ↔ id ∈ g.nodes := by
  simp [arcsOf?, nodes]

theorem mem_of_arcsOf? {g : RoutingGraph α} {id : Int} {arcs : List (Arc α)}
    (h : g.arcsOf? id = some arcs) : (id, arcs) ∈ g := by
  obtain ⟨n, hn, rfl⟩ := Option.map_eq_some_iff.1 h
  have hid : n.1 = id := by simpa using List.find?_some hn
  exact hid ▸ List.mem_of_find?_eq_some hn

theorem arcsOf?_without {g : RoutingGraph α} {id other : Int} (h : other ≠ id) :
    (g.without id).arcsOf? other = g.arcsOf? other := by
  induction g with
  | nil => rfl
  | cons n rest ih =>
    rw [without_cons]
    by_cases hn : n.1 = id
    · have hother : n.1 ≠ other := fun he => h (he.symm.trans hn)
      rw [if_pos hn, ih]
      simp [arcsOf?, hother]
    · rw [if_neg hn]
      by_cases hother : n.1 = other
      · simp [arcsOf?, hother]
      · simpa [arcsOf?, hother] using ih

section Scalars

variable [Scalar α]

/-- The walks from a node: where each ends, the ids on it, and the sum of its weights. -/
inductive Walk (g : RoutingGraph α) (start : Int) : Int → List Int → α → Prop
  | here : start ∈ g.nodes → Walk g start start [start] 0
  | onward {stop : Int} {ids : List Int} {cost : α} {arc : Arc α} :
      Walk g start stop ids cost → g.Leaves stop arc →
      Walk g start arc.target (ids ++ [arc.target]) (cost + arc.weight)

namespace Walk

variable {g : RoutingGraph α} {start stop : Int} {ids : List Int} {cost : α}

theorem ends (h : g.Walk start stop ids cost) :
    ids.head? = some start ∧ ids.getLast? = some stop := by
  induction h with
  | here => simp
  | onward _ _ ih => simp [ih.1]

theorem start_mem (h : g.Walk start stop ids cost) : start ∈ g.nodes := by
  induction h with
  | here hstart => exact hstart
  | onward _ _ ih => exact ih

theorem stop_mem (h : g.Walk start stop ids cost) (hg : g.Closed) : stop ∈ g.nodes := by
  cases h with
  | here hstart => exact hstart
  | onward _ harc => exact hg _ _ harc

theorem mem_nodes (h : g.Walk start stop ids cost) (hg : g.Closed) : ∀ id ∈ ids, id ∈ g.nodes := by
  induction h with
  | here hstart => simpa using hstart
  | onward _ harc ih =>
    intro id hid
    rcases List.mem_append.1 hid with hid | hid
    · exact ih id hid
    · exact List.mem_singleton.1 hid ▸ hg _ _ harc

theorem isChain (h : g.Walk start stop ids cost) : ids.IsChain g.Joins := by
  induction h with
  | here => exact List.isChain_singleton _
  | @onward stop ids cost arc hwalk harc ih =>
    apply ih.append (List.isChain_singleton _)
    intro last hlast next hnext
    rw [hwalk.ends.2] at hlast
    simp only [Option.mem_def, Option.some.injEq] at hlast
    simp only [List.head?_cons, Option.mem_def, Option.some.injEq] at hnext
    exact ⟨arc, hlast ▸ harc, hnext⟩

theorem exists_onward (h : g.Walk start stop ids cost) {next : Int} (hjoins : g.Joins stop next) :
    ∃ total, g.Walk start next (ids ++ [next]) total := by
  obtain ⟨arc, harc, rfl⟩ := hjoins
  exact ⟨_, h.onward harc⟩

end Walk

end Scalars

/-! ## Restriction -/

theorem mem_nodes_restrict {g : RoutingGraph α} {keep : Int → Bool} {id : Int} :
    id ∈ (g.restrict keep).nodes ↔ id ∈ g.nodes ∧ keep id = true := by
  simp only [restrict, nodes, List.map_map, List.mem_map, List.mem_filter]
  constructor
  · rintro ⟨n, ⟨hn, hkeep⟩, rfl⟩
    exact ⟨⟨n, hn, rfl⟩, hkeep⟩
  · rintro ⟨⟨n, hn, rfl⟩, hkeep⟩
    exact ⟨n, ⟨hn, hkeep⟩, rfl⟩

theorem arcsOf?_restrict {g : RoutingGraph α} {keep : Int → Bool} {id : Int}
    (h : keep id = true) :
    (g.restrict keep).arcsOf? id
      = (g.arcsOf? id).map fun arcs => arcs.filter fun a => keep a.target := by
  induction g with
  | nil => rfl
  | cons n rest ih =>
    simp only [restrict] at ih
    by_cases hn : n.1 = id
    · simp [restrict, arcsOf?, hn, h]
    · by_cases hk : keep n.1 = true
      · simpa [restrict, arcsOf?, hn, hk] using ih
      · simpa [restrict, arcsOf?, hn, hk] using ih

theorem leaves_restrict {g : RoutingGraph α} {keep : Int → Bool} {id : Int} {arc : Arc α} :
    (g.restrict keep).Leaves id arc ↔
      g.Leaves id arc ∧ keep id = true ∧ keep arc.target = true := by
  constructor
  · rintro ⟨arcs, harcs, harc⟩
    have hkeep : keep id = true := by
      have hmem := mem_of_arcsOf? harcs
      simp only [restrict, List.mem_map, List.mem_filter] at hmem
      obtain ⟨n, ⟨-, hn⟩, he⟩ := hmem
      cases he
      exact hn
    rw [arcsOf?_restrict hkeep] at harcs
    obtain ⟨all, hall, rfl⟩ := Option.map_eq_some_iff.1 harcs
    obtain ⟨hmem, htarget⟩ := List.mem_filter.1 harc
    exact ⟨⟨all, hall, hmem⟩, hkeep, htarget⟩
  · rintro ⟨⟨arcs, harcs, harc⟩, hkeep, htarget⟩
    have hkept : (g.restrict keep).arcsOf? id = some (arcs.filter fun a => keep a.target) := by
      rw [arcsOf?_restrict hkeep, harcs]
      rfl
    exact ⟨_, hkept, List.mem_filter.2 ⟨harc, htarget⟩⟩

theorem Closed.restrict {g : RoutingGraph α} (h : g.Closed) (keep : Int → Bool) :
    (g.restrict keep).Closed := by
  intro id arc harc
  obtain ⟨hleaves, -, htarget⟩ := leaves_restrict.1 harc
  exact mem_nodes_restrict.2 ⟨h id arc hleaves, htarget⟩

/-- The walks of a restricted graph are those that keep to its nodes. -/
theorem walk_restrict [Scalar α] {g : RoutingGraph α} {keep : Int → Bool} {start stop : Int}
    {ids : List Int} {cost : α} : (g.restrict keep).Walk start stop ids cost ↔
      g.Walk start stop ids cost ∧ ∀ id ∈ ids, keep id = true := by
  constructor
  · intro h
    induction h with
    | here hstart =>
      obtain ⟨hnode, hkeep⟩ := mem_nodes_restrict.1 hstart
      exact ⟨.here hnode, by simpa using hkeep⟩
    | onward _ harc ih =>
      obtain ⟨hleaves, -, htarget⟩ := leaves_restrict.1 harc
      refine ⟨.onward ih.1 hleaves, fun id hid => ?_⟩
      rcases List.mem_append.1 hid with hid | hid
      · exact ih.2 id hid
      · exact List.mem_singleton.1 hid ▸ htarget
  · rintro ⟨h, hkeep⟩
    induction h with
    | here hstart => exact .here (mem_nodes_restrict.2 ⟨hstart, hkeep start (by simp)⟩)
    | @onward stop ids cost arc hwalk harc ih =>
      have hids : ∀ id ∈ ids, keep id = true := fun id hid => hkeep id (by simp [hid])
      have hstop := hids stop (List.mem_of_getLast? hwalk.ends.2)
      exact .onward (ih hids) (leaves_restrict.2 ⟨harc, hstop, hkeep arc.target (by simp)⟩)

/-! ## Arcs to one target -/

theorem mem_putArc_iff {arcs : List (Arc α)} {new arc : Arc α} :
    arc ∈ putArc arcs new ↔ arc = new ∨ arc ∈ arcs ∧ arc.target ≠ new.target := by
  unfold putArc
  split
  next hany =>
    obtain ⟨old, hold, htarget⟩ := List.any_eq_true.1 hany
    have hsame : old.target = new.target := by simpa using htarget
    constructor
    · intro h
      obtain ⟨a, ha, rfl⟩ := List.mem_map.1 h
      by_cases he : a.target = new.target
      · simp [he]
      · simp [he, ha]
    · rintro (rfl | ⟨ha, hne⟩)
      · exact List.mem_map.2 ⟨old, hold, if_pos hsame⟩
      · exact List.mem_map.2 ⟨arc, ha, if_neg hne⟩
  next hnone =>
    have hfresh : ∀ a ∈ arcs, a.target ≠ new.target := by simpa using hnone
    rw [List.mem_append, List.mem_singleton]
    constructor
    · rintro (ha | rfl)
      · exact Or.inr ⟨ha, hfresh arc ha⟩
      · exact Or.inl rfl
    · rintro (rfl | ⟨ha, -⟩)
      · exact Or.inr rfl
      · exact Or.inl ha

/-- Arcs that agree where they have one target take the place of all earlier ones. -/
theorem mem_foldl_putArc_iff {news start : List (Arc α)} {arc : Arc α}
    (h : ∀ a ∈ news, ∀ b ∈ news, a.target = b.target → a = b) :
    arc ∈ news.foldl putArc start ↔
      arc ∈ news ∨ arc ∈ start ∧ ∀ new ∈ news, arc.target ≠ new.target := by
  induction news generalizing start with
  | nil => simp
  | cons new news ih =>
    have hrest : ∀ a ∈ news, ∀ b ∈ news, a.target = b.target → a = b :=
      fun a ha b hb => h a (by simp [ha]) b (by simp [hb])
    have hnew : ∀ a ∈ news, new.target = a.target → new = a :=
      fun a ha => h new (by simp) a (by simp [ha])
    rw [List.foldl_cons, ih hrest, mem_putArc_iff]
    simp only [List.mem_cons, forall_eq_or_imp]
    grind

theorem nodup_putArc {arcs : List (Arc α)} (h : (arcs.map (·.target)).Nodup) (new : Arc α) :
    ((putArc arcs new).map (·.target)).Nodup := by
  unfold putArc
  split
  next =>
    have hsame : (arcs.map fun a => if a.target = new.target then new else a).map (·.target)
        = arcs.map (·.target) := by
      rw [List.map_map]
      apply List.map_congr_left
      intro a _
      by_cases he : a.target = new.target <;> simp [he]
    rwa [hsame]
  next hnone =>
    rw [List.map_append, List.nodup_append']
    refine ⟨h, List.nodup_singleton _, ?_⟩
    simpa [List.disjoint_singleton] using hnone

theorem nodup_foldl_putArc {start : List (Arc α)} (h : (start.map (·.target)).Nodup)
    (news : List (Arc α)) : ((news.foldl putArc start).map (·.target)).Nodup := by
  induction news generalizing start with
  | nil => exact h
  | cons new news ih => exact ih (nodup_putArc h new)

end RoutingGraph

namespace RoadNetwork

/-- A road follows another, or a permitted lane change leads to it. -/
def Leads (net : RoadNetwork α) (id next : Int) : Prop :=
  ∃ s, net.segment? id = some s ∧ s.isRoad ∧
    ((next ∈ s.successors ∧ net.isRoad next) ∨ next ∈ net.changeTargets s)

instance (net : RoadNetwork α) (id next : Int) : Decidable (net.Leads id next) :=
  decidable_of_iff ((net.segment? id).any fun s => s.isRoad &&
    (decide (next ∈ s.successors) && net.isRoad next || decide (next ∈ net.changeTargets s)))
    (by rw [Option.any_eq_true]; simp [Leads])

theorem mem_changeTargets_iff {net : RoadNetwork α} {s : Segment α} {id : Int} :
    id ∈ net.changeTargets s ↔ net.isRoad id = true ∧
      ∃ side ∈ [s.left, s.right], side.neighbor = some id ∧ side.laneChange.isSet = true ∧
        side.sameDirection.isSet = true := by
  have hside : ∀ side : Side, net.sideTarget? side = some id ↔ net.isRoad id = true ∧
      side.neighbor = some id ∧ side.laneChange.isSet = true ∧
        side.sameDirection.isSet = true := by
    intro side
    simp only [sideTarget?, Option.filter_eq_some_iff, Bool.and_eq_true]
    tauto
  simp only [changeTargets, List.mem_append, Option.mem_toList, hside,
    List.mem_cons, List.not_mem_nil, or_false, exists_eq_or_imp, exists_eq_left]
  tauto

theorem mem_changeTargets {net : RoadNetwork α} {s : Segment α} {id : Int}
    (h : id ∈ net.changeTargets s) : net.isRoad id = true := (mem_changeTargets_iff.1 h).1

theorem Leads.isRoad {net : RoadNetwork α} {id next : Int} (h : net.Leads id next) :
    net.isRoad next = true := by
  obtain ⟨s, -, -, h | h⟩ := h
  · exact h.2
  · exact mem_changeTargets h

section Scalars

variable [Scalar α] {net : RoadNetwork α}

theorem nodes_graph : net.graph.nodes = net.roads.map (·.id) := by
  simp [graph, RoutingGraph.nodes]

theorem mem_nodes_graph (ha : net.Accepted) {id : Int} :
    id ∈ net.graph.nodes ↔ net.isRoad id = true := by
  rw [nodes_graph, ha.isRoad_iff, List.mem_map]

theorem leaves_graph (ha : net.Accepted) {id : Int} {arc : Arc α} :
    net.graph.Leaves id arc ↔ ∃ s, net.segment? id = some s ∧ s.isRoad ∧ arc ∈ net.arcs s := by
  constructor
  · rintro ⟨arcs, harcs, harc⟩
    obtain ⟨s, hs, he⟩ := List.mem_map.1 (RoutingGraph.mem_of_arcsOf? harcs)
    cases he
    obtain ⟨hmem, hroad⟩ := List.mem_filter.1 hs
    exact ⟨s, ha.segment?_eq_some.2 ⟨hmem, rfl⟩, hroad, harc⟩
  · rintro ⟨s, hs, hroad, harc⟩
    obtain ⟨hmem, rfl⟩ := ha.segment?_eq_some.1 hs
    have hnode : s.id ∈ net.graph.nodes := (mem_nodes_graph ha).2
      (ha.isRoad_iff.2 ⟨s, List.mem_filter.2 ⟨hmem, hroad⟩, rfl⟩)
    obtain ⟨arcs, harcs⟩ := Option.isSome_iff_exists.1 (RoutingGraph.arcsOf?_isSome_iff.2 hnode)
    obtain ⟨t, ht, he⟩ := List.mem_map.1 (RoutingGraph.mem_of_arcsOf? harcs)
    obtain ⟨hid, rfl⟩ := Prod.mk.inj he
    have hts : t = s := List.inj_on_of_nodup_map ha.nodup_ids (List.mem_filter.1 ht).1 hmem hid
    exact ⟨_, harcs, hts ▸ harc⟩

theorem mem_successorArcs_iff {s : Segment α} {arc : Arc α} :
    arc ∈ net.successorArcs s ↔ arc.target ∈ s.successors ∧
      ∃ t, net.segment? arc.target = some t ∧ t.isRoad = true ∧
        arc = ⟨t.id, .successor, t.length⟩ := by
  constructor
  · intro h
    obtain ⟨t, ht, rfl⟩ := List.mem_map.1 h
    obtain ⟨hamong, hroad⟩ := List.mem_filter.1 ht
    obtain ⟨id, hid, hfound⟩ := List.mem_filterMap.1 hamong
    obtain rfl : t.id = id := by simpa using List.find?_some hfound
    exact ⟨hid, t, hfound, hroad, rfl⟩
  · rintro ⟨htarget, t, ht, hroad, harc⟩
    refine List.mem_map.2 ⟨t, List.mem_filter.2 ⟨?_, hroad⟩, harc.symm⟩
    exact List.mem_filterMap.2 ⟨arc.target, htarget, ht⟩

theorem mem_arcs_iff {s : Segment α} {arc : Arc α} :
    arc ∈ net.arcs s ↔
      (arc.target ∈ net.changeTargets s ∧ arc = ⟨arc.target, .laneChange, net.laneChangeCost⟩) ∨
      (arc.target ∉ net.changeTargets s ∧ arc ∈ net.successorArcs s) := by
  have hsuccessor : ∀ a ∈ net.successorArcs s, ∀ b ∈ net.successorArcs s,
      a.target = b.target → a = b := by
    intro a ha b hb htarget
    obtain ⟨-, t, ht, -, hat⟩ := mem_successorArcs_iff.1 ha
    obtain ⟨-, u, hu, -, hbu⟩ := mem_successorArcs_iff.1 hb
    rw [htarget, hu] at ht
    rw [hat, hbu, Option.some.inj ht]
  have hchange : ∀ a, a ∈ net.changeArcs s ↔ a.target ∈ net.changeTargets s ∧
      a = ⟨a.target, .laneChange, net.laneChangeCost⟩ := by
    intro a
    constructor
    · intro h
      obtain ⟨id, hid, rfl⟩ := List.mem_map.1 h
      exact ⟨hid, rfl⟩
    · rintro ⟨htarget, ha⟩
      exact List.mem_map.2 ⟨a.target, htarget, ha.symm⟩
  have hsame : ∀ a ∈ net.changeArcs s, ∀ b ∈ net.changeArcs s, a.target = b.target → a = b := by
    intro a ha b hb htarget
    rw [((hchange a).1 ha).2, ((hchange b).1 hb).2, htarget]
  have hfree : (∀ new ∈ net.changeArcs s, arc.target ≠ new.target) ↔
      arc.target ∉ net.changeTargets s := by
    constructor
    · intro h htarget
      exact h _ (List.mem_map_of_mem htarget) rfl
    · intro h new hnew he
      exact h (he ▸ ((hchange new).1 hnew).1)
  rw [arcs, List.foldl_append, RoutingGraph.mem_foldl_putArc_iff hsame,
    RoutingGraph.mem_foldl_putArc_iff hsuccessor, hchange, hfree]
  simp only [List.not_mem_nil, false_and, or_false]
  rw [and_comm (a := arc ∈ net.successorArcs s)]

theorem mem_arcs {s : Segment α} {arc : Arc α} (h : arc ∈ net.arcs s) :
    (arc.target ∈ s.successors ∧ net.isRoad arc.target ∧
      ∃ t, net.segment? arc.target = some t ∧ arc.weight = t.length) ∨
    (arc.target ∈ net.changeTargets s ∧ arc.weight = net.laneChangeCost) := by
  rcases mem_arcs_iff.1 h with ⟨hchange, harc⟩ | ⟨-, hsuccessor⟩
  · exact Or.inr ⟨hchange, congrArg Arc.weight harc⟩
  · obtain ⟨hnext, t, ht, hroad, harc⟩ := mem_successorArcs_iff.1 hsuccessor
    exact Or.inl ⟨hnext, by simp [isRoad, ht, hroad], t, ht, congrArg Arc.weight harc⟩

theorem exists_arc {s : Segment α} {next : Int}
    (h : (next ∈ s.successors ∧ net.isRoad next) ∨ next ∈ net.changeTargets s) :
    ∃ arc ∈ net.arcs s, arc.target = next := by
  by_cases hchange : next ∈ net.changeTargets s
  · exact ⟨⟨next, .laneChange, net.laneChangeCost⟩, mem_arcs_iff.2 (Or.inl ⟨hchange, rfl⟩), rfl⟩
  · obtain ⟨hnext, hroad⟩ := h.resolve_right hchange
    obtain ⟨t, ht, hr⟩ := (Option.any_eq_true _ _).1 hroad
    obtain rfl : t.id = next := by simpa using List.find?_some ht
    refine ⟨⟨t.id, .successor, t.length⟩, mem_arcs_iff.2 (Or.inr ⟨hchange, ?_⟩), rfl⟩
    exact mem_successorArcs_iff.2 ⟨hnext, t, ht, hr, rfl⟩

theorem joins_graph (ha : net.Accepted) {id next : Int} :
    net.graph.Joins id next ↔ net.Leads id next := by
  constructor
  · rintro ⟨arc, harc, rfl⟩
    obtain ⟨s, hs, hroad, hmem⟩ := (leaves_graph ha).1 harc
    refine ⟨s, hs, hroad, ?_⟩
    rcases mem_arcs hmem with ⟨hsucc, hr, -⟩ | ⟨hchange, -⟩
    · exact Or.inl ⟨hsucc, hr⟩
    · exact Or.inr hchange
  · rintro ⟨s, hs, hroad, h⟩
    obtain ⟨arc, harc, he⟩ := exists_arc h
    exact ⟨arc, (leaves_graph ha).2 ⟨s, hs, hroad, harc⟩, he⟩

theorem closed_graph (ha : net.Accepted) : net.graph.Closed := by
  intro id arc harc
  exact (mem_nodes_graph ha).2 ((joins_graph ha).1 ⟨arc, harc, rfl⟩).isRoad

theorem weight_nonneg [ExactSums α] (ha : net.Accepted) (hc : 0 ≤ net.laneChangeCost) {id : Int}
    {arc : Arc α} (harc : net.graph.Leaves id arc) : 0 ≤ arc.weight := by
  obtain ⟨s, -, -, hmem⟩ := (leaves_graph ha).1 harc
  rcases mem_arcs hmem with ⟨-, -, t, ht, hw⟩ | ⟨-, hw⟩
  · rw [hw]
    exact (ha.length_pos (ha.segment?_eq_some.1 ht).1).le
  · exact hw ▸ hc

theorem walk_of_drivable {start stop : Int} {ids : List Int} {cost : α}
    (h : net.drivableGraph.Walk start stop ids cost) : net.graph.Walk start stop ids cost :=
  (RoutingGraph.walk_restrict.1 h).1

end Scalars

end RoadNetwork

end LaneRoute
