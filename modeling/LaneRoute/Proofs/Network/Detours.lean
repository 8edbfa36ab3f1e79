import LaneRoute.Proofs.Network.Legs

/-!
# Detours

A leg that shall avoid lanes not to be driven on. The search in the drivable part of the graph
is one among the walks of the whole graph that keep to drivable segments, so that the path of
the leg is the cheapest of these when there is one. Else the wish changes nothing.
-/

set_option autoImplicit false

namespace LaneRoute.RoadNetwork

variable {α : Type}

def isDrivable (net : RoadNetwork α) (id : Int) : Bool :=
  (net.segment? id).any (·.drivable.isSet)

def Passable (net : RoadNetwork α) (ids : List Int) : Prop := ∀ id ∈ ids, net.isDrivable id = true

section Drives

variable [Scalar α] {net : RoadNetwork α}

theorem walk_drivableGraph {start stop : Int} {ids : List Int} {cost : α} :
    net.drivableGraph.Walk start stop ids cost ↔
      net.graph.Walk start stop ids cost ∧ net.Passable ids :=
  RoutingGraph.walk_restrict

theorem drive_drivableGraph {pair : Int × Int} {ids : List Int} {cost : α} :
    net.Drive net.drivableGraph pair ids cost ↔
      net.Drive net.graph pair ids cost ∧ net.Passable ids := by
  constructor
  · rintro ⟨first, sum, hfirst, hwalk, hcost⟩
    obtain ⟨hwalk, hids⟩ := walk_drivableGraph.1 hwalk
    exact ⟨⟨first, sum, hfirst, hwalk, hcost⟩, hids⟩
  · rintro ⟨⟨first, sum, hfirst, hwalk, hcost⟩, hids⟩
    exact ⟨first, sum, hfirst, walk_drivableGraph.2 ⟨hwalk, hids⟩, hcost⟩

theorem closed_drivableGraph (ha : net.Accepted) : net.drivableGraph.Closed :=
  (closed_graph ha).restrict _

theorem weight_nonneg_of_drivable [ExactSums α] (ha : net.Accepted) (hc : 0 ≤ net.laneChangeCost) :
    net.drivableGraph.Nonnegative := by
  intro id arc harc
  exact weight_nonneg ha hc (RoutingGraph.leaves_restrict.1 harc).1

theorem passable_iff_of_walk (ha : net.Accepted) {start stop : Int} {ids : List Int} {cost : α}
    (h : net.graph.Walk start stop ids cost) :
    net.Passable ids ↔
      ¬ (ids.any fun id => (net.segment? id).any fun s => !s.drivable.isSet) = true := by
  rw [List.any_eq_true, not_exists]
  apply forall_congr'
  intro id
  by_cases hid : id ∈ ids
  · have hroad := (mem_nodes_graph ha).1 (h.mem_nodes (closed_graph ha) id hid)
    obtain ⟨s, hs, -⟩ := (Option.any_eq_true _ _).1 hroad
    simp [hid, isDrivable, hs]
  · simp [hid]

end Drives

section Sides

variable [Sided α] {net : RoadNetwork α}

/-- A drive between candidates of two poses that keeps to drivable segments. -/
def Detour (net : RoadNetwork α) (start goal : Pose α) (ids : List Int) (cost : α) : Prop :=
  net.Passable ids ∧ ∃ pair ∈ net.startCandidates start ×ˢ net.goalCandidates goal,
    net.Drive net.graph pair ids cost

def CheapestDetour (net : RoadNetwork α) (start goal : Pose α) (ids : List Int) : Prop :=
  ∃ cost, net.Detour start goal ids cost ∧
    ∀ other cost', net.Detour start goal other cost' → cost ≤ cost'

theorem exists_detour_iff (ha : net.Accepted) {start goal : Pose α} :
    (∃ ids cost, net.Detour start goal ids cost) ↔
      ∃ s ∈ net.startCandidates start, ∃ t ∈ net.goalCandidates goal, ∃ ids cost,
        net.graph.Walk s t ids cost ∧ net.Passable ids := by
  constructor
  · rintro ⟨ids, cost, hids, pair, hpair, hdrive⟩
    obtain ⟨s, hs, t, ht, sum, hwalk⟩ := hdrive.exists_walk hpair
    exact ⟨s, hs, t, ht, ids, sum, hwalk, hids⟩
  · rintro ⟨s, hs, t, ht, ids, sum, hwalk, hids⟩
    obtain ⟨cost, hdrive⟩ := exists_drive ha hwalk
    exact ⟨ids, cost, hids, (s, t), List.mem_product.2 ⟨hs, ht⟩, hdrive⟩

theorem FirstCheapest.cheapestDetour {start goal : Pose α} {ids : List Int} {cost : α}
    (h : net.FirstCheapest net.graph (net.startCandidates start ×ˢ net.goalCandidates goal) ids cost)
    (hids : net.Passable ids) : net.CheapestDetour start goal ids := by
  obtain ⟨before, pair, after, heq, hdrive, -, hall⟩ := h
  refine ⟨cost, ⟨hids, pair, by simp [heq], hdrive⟩, ?_⟩
  rintro other cost' ⟨-, pair', hpair', hdrive'⟩
  exact hall pair' hpair' other cost' hdrive'

theorem Best.cheapestDetour {start goal : Pose α} {way : Option (α × List Int)}
    (h : net.Best net.drivableGraph (net.startCandidates start ×ˢ net.goalCandidates goal) way)
    {ids : List Int} {cost : α} (hdetour : net.Detour start goal ids cost) :
    ∃ w, way = some w ∧ net.CheapestDetour start goal w.2 := by
  obtain ⟨hids, pair, hpair, hdrive⟩ := hdetour
  cases way with
  | none => exact absurd (drive_drivableGraph.2 ⟨hdrive, hids⟩) (h pair hpair ids cost)
  | some w =>
    obtain ⟨⟨before, first, after, heq, hfirst, -, hall⟩, -⟩ := h
    obtain ⟨hfirst, hw⟩ := drive_drivableGraph.1 hfirst
    refine ⟨w, rfl, w.1, ⟨hw, first, by simp [heq], hfirst⟩, ?_⟩
    rintro other cost' ⟨hother, pair', hpair', hdrive'⟩
    exact hall pair' hpair' other cost' (drive_drivableGraph.2 ⟨hdrive', hother⟩)

theorem Best.eq_none {start goal : Pose α} {way : Option (α × List Int)}
    (h : net.Best net.drivableGraph (net.startCandidates start ×ˢ net.goalCandidates goal) way)
    (hfree : ¬ ∃ ids cost, net.Detour start goal ids cost) : way = none := by
  cases way with
  | none => rfl
  | some w =>
    obtain ⟨⟨before, pair, after, heq, hdrive, -⟩, -⟩ := h
    obtain ⟨hdrive, hw⟩ := drive_drivableGraph.1 hdrive
    exact absurd ⟨w.2, w.1, hw, pair, by simp [heq], hdrive⟩ hfree

theorem result_avoiding (ha : net.Accepted) {start goal : Pose α} {path : List Int}
    {way : Option (List Int)}
    (hpath : net.bestPath net.graph (net.startCandidates start) (net.goalCandidates goal)
      = .ok (some path))
    (hway : net.bestPath net.drivableGraph (net.startCandidates start) (net.goalCandidates goal)
      = .ok way) :
    (net.Passable path → (net.pathBetweenPoses start goal true).result = .ok (some path)) ∧
      (¬ net.Passable path →
        (net.pathBetweenPoses start goal true).result = .ok (some (way.getD path))) := by
  obtain ⟨pair, hpair, cost, hdrive, -⟩ := drive_of_bestPath hpath
  obtain ⟨s, -, t, -, sum, hwalk⟩ := hdrive.exists_walk hpair
  rw [passable_iff_of_walk ha hwalk, result_pathBetweenPoses, hpath]
  constructor
  · intro hpassable
    exact if_neg hpassable
  · intro hclosed
    rw [not_not] at hclosed
    refine (if_pos hclosed).trans ?_
    rw [hway]
    rfl

end Sides

section Exact

variable [Sided α] [ExactSums α] {net : RoadNetwork α}

theorem bestPath_drivableGraph (ha : net.Accepted) (hc : 0 ≤ net.laneChangeCost)
    (starts goals : List Int) :
    ∃ way : Option (α × List Int), net.bestPath net.drivableGraph starts goals
        = .ok (way.map Prod.snd) ∧ net.Best net.drivableGraph (starts ×ˢ goals) way := by
  apply bestPath_total (closed_drivableGraph ha) (weight_nonneg_of_drivable ha hc)
  intro id hid
  exact exists_segment_of_mem_graph ha (RoutingGraph.mem_nodes_restrict.1 hid).1

theorem exists_pathBetweenPoses (ha : net.Accepted) (hc : 0 ≤ net.laneChangeCost)
    (start goal : Pose α) (avoid : Bool) :
    ∃ found, (net.pathBetweenPoses start goal avoid).result = .ok found := by
  obtain ⟨best, hbest, -⟩ :=
    bestPath_graph ha hc (net.startCandidates start) (net.goalCandidates goal)
  obtain ⟨way, hway, -⟩ :=
    bestPath_drivableGraph ha hc (net.startCandidates start) (net.goalCandidates goal)
  rw [result_pathBetweenPoses, hbest]
  cases best with
  | none => exact ⟨none, rfl⟩
  | some b =>
    rw [hway]
    dsimp only [Option.map_some, bind, Except.bind]
    split
    · exact ⟨_, rfl⟩
    · exact ⟨_, rfl⟩

/-- A leg that shall avoid lanes closed to driving takes the cheapest detour. Without a detour
its path is that of a leg without the wish. -/
theorem pathBetweenPoses_avoids (ha : net.Accepted) (hc : 0 ≤ net.laneChangeCost)
    (start goal : Pose α) :
    ((∃ s ∈ net.startCandidates start, ∃ t ∈ net.goalCandidates goal, ∃ ids cost,
        net.graph.Walk s t ids cost ∧ net.Passable ids) →
      ∃ ids, (net.pathBetweenPoses start goal true).result = .ok (some ids) ∧
        net.CheapestDetour start goal ids) ∧
    ((¬ ∃ s ∈ net.startCandidates start, ∃ t ∈ net.goalCandidates goal, ∃ ids cost,
        net.graph.Walk s t ids cost ∧ net.Passable ids) →
      ∃ found, (net.pathBetweenPoses start goal true).result = .ok found ∧
        (net.pathBetweenPoses start goal false).result = .ok found) := by
  rw [← exists_detour_iff ha]
  obtain ⟨best, hbest, hall⟩ :=
    bestPath_graph ha hc (net.startCandidates start) (net.goalCandidates goal)
  obtain ⟨way, hway, hdrivable⟩ :=
    bestPath_drivableGraph ha hc (net.startCandidates start) (net.goalCandidates goal)
  cases best with
  | none =>
    -- without any path there is no detour either
    have hnone : ∀ avoid, (net.pathBetweenPoses start goal avoid).result = .ok none := by
      intro avoid
      rw [result_pathBetweenPoses, hbest]
      rfl
    constructor
    · rintro ⟨ids, cost, -, pair, hpair, hdrive⟩
      exact absurd hdrive (hall pair hpair ids cost)
    · intro _
      exact ⟨none, hnone true, hnone false⟩
  | some b =>
    obtain ⟨hopen, hclosed⟩ := result_avoiding ha hbest hway
    by_cases hb : net.Passable b.2
    · have hdetour := hall.1.cheapestDetour hb
      constructor
      · intro _
        exact ⟨b.2, hopen hb, hdetour⟩
      · intro hfree
        obtain ⟨cost, hcost, -⟩ := hdetour
        exact absurd ⟨b.2, cost, hcost⟩ hfree
    · constructor
      · rintro ⟨ids, cost, hdetour⟩
        obtain ⟨w, rfl, hw⟩ := hdrivable.cheapestDetour hdetour
        exact ⟨w.2, hclosed hb, hw⟩
      · intro hfree
        obtain rfl := hdrivable.eq_none hfree
        refine ⟨some b.2, hclosed hb, ?_⟩
        rw [result_pathBetweenPoses, hbest]
        rfl

end Exact

/-! ## A fork -/

def forkRoads : List (Segment Rat) :=
  [plainRoad 1 [⟨0, 2, 0⟩, ⟨10, 2, 0⟩] [⟨0, -2, 0⟩, ⟨10, -2, 0⟩] [2, 3],
   { plainRoad 2 [⟨10, 2, 0⟩, ⟨20, 2, 0⟩] [⟨10, -2, 0⟩, ⟨20, -2, 0⟩] [4] with
      drivable := .ofBool false },
   plainRoad 3 [⟨8, 6, 0⟩, ⟨22, 6, 0⟩] [⟨8, 2, 0⟩, ⟨22, 2, 0⟩] [4],
   plainRoad 4 [⟨20, 2, 0⟩, ⟨30, 2, 0⟩] [⟨20, -2, 0⟩, ⟨30, -2, 0⟩] []]

def fork : RoadNetwork Rat := ⟨link forkRoads, [], [], 2⟩

theorem accepted_fork : fork.Accepted := by
  have hcheck : (check forkRoads).isOk := by decide +kernel
  have hids : (forkRoads.map (·.id)).Pairwise (· ≤ ·) := by simp [forkRoads, plainRoad]
  exact accepted_of_ascending hcheck hids [] [] 2

/-- At the fork the closed way is the shorter one, and the way around it is the detour. -/
theorem fork_avoids : fork.Accepted ∧ 0 ≤ fork.laneChangeCost ∧
    (fork.pathBetweenPoses ⟨5, 0, 0, 0⟩ ⟨25, 0, 0, 0⟩ false).result = .ok (some [1, 2, 4]) ∧
    fork.CheapestDetour ⟨5, 0, 0, 0⟩ ⟨25, 0, 0, 0⟩ [1, 3, 4] := by
  have hc : 0 ≤ fork.laneChangeCost := by decide +kernel
  have hshort : (fork.pathBetweenPoses ⟨5, 0, 0, 0⟩ ⟨25, 0, 0, 0⟩ false).result
      = .ok (some [1, 2, 4]) := Fallible.ok_of_toOption (by decide +kernel)
  have haround : (fork.pathBetweenPoses ⟨5, 0, 0, 0⟩ ⟨25, 0, 0, 0⟩ true).result
      = .ok (some [1, 3, 4]) := Fallible.ok_of_toOption (by decide +kernel)
  refine ⟨accepted_fork, hc, hshort, ?_⟩
  obtain ⟨hdetour, hfree⟩ := pathBetweenPoses_avoids accepted_fork hc
    ⟨5, 0, 0, 0⟩ ⟨25, 0, 0, 0⟩
  by_cases h : ∃ s ∈ fork.startCandidates ⟨5, 0, 0, 0⟩, ∃ t ∈ fork.goalCandidates ⟨25, 0, 0, 0⟩,
      ∃ ids cost, fork.graph.Walk s t ids cost ∧ fork.Passable ids
  · obtain ⟨ids, hids, hcheapest⟩ := hdetour h
    rw [haround] at hids
    cases hids
    exact hcheapest
  · obtain ⟨found, htrue, hfalse⟩ := hfree h
    rw [haround] at htrue
    rw [hshort] at hfalse
    cases htrue
    cases hfalse

end LaneRoute.RoadNetwork
