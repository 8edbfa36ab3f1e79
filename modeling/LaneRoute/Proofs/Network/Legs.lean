import LaneRoute.Proofs.Routing.Cheapest
import LaneRoute.Network.Checkpoint
import Mathlib.Data.List.ProdSigma

/-!
# Legs

A leg leads from one checkpoint to the next. Its path is a drive between a start candidate of
the one and a goal candidate of the other, and in exact arithmetic it is the first of the
cheapest drives over all pairs of these.
-/

set_option autoImplicit false

namespace LaneRoute.RoadNetwork

variable {α : Type}

section Drives

variable [Scalar α]

/-- A drive for a pair of ids: a walk from the first to the second, whose cost counts the first
segment, too. -/
def Drive (net : RoadNetwork α) (g : RoutingGraph α) (pair : Int × Int) (ids : List Int)
    (cost : α) : Prop :=
  ∃ first sum, net.segment? pair.1 = some first ∧ g.Walk pair.1 pair.2 ids sum ∧
    cost = sum + first.length

end Drives

section Sides

variable [Sided α] {net : RoadNetwork α} {g : RoutingGraph α}

theorem drive_of_pathBetween {start goal : Int} {cost : α} {ids : List Int}
    (h : net.pathBetween g start goal = .ok (some (cost, ids))) :
    net.Drive g (start, goal) ids cost ∧ ids.Nodup := by
  obtain ⟨found, hfound, hrest⟩ := Fallible.bind_eq_ok.1 h
  cases found with
  | none => simp [pure, Except.pure] at hrest
  | some best =>
    obtain ⟨sum, path⟩ := best
    obtain ⟨first, hfirst, hpair⟩ := Fallible.bind_eq_ok.1 hrest
    cases hpair
    obtain ⟨hwalk, hnodup⟩ := RoutingGraph.walk_of_shortestPath hfound
    exact ⟨⟨first, sum, segment_eq_ok.1 hfirst, hwalk, rfl⟩, hnodup⟩

theorem cheaper_eq_some {best new : Option (α × List Int)} {b : α × List Int}
    (h : cheaper best new = some b) : best = some b ∨ new = some b := by
  unfold cheaper at h
  split at h
  · split at h
    · exact Or.inr h
    · exact Or.inl h
  · split at h
    · exact Or.inr h
    · simp at h
  · exact Or.inl h

theorem Drive.exists_walk {starts goals ids : List Int} {pair : Int × Int} {cost : α}
    (h : net.Drive g pair ids cost) (hpair : pair ∈ starts ×ˢ goals) :
    ∃ s ∈ starts, ∃ t ∈ goals, ∃ sum, g.Walk s t ids sum := by
  obtain ⟨first, sum, -, hwalk, -⟩ := h
  obtain ⟨hs, ht⟩ := List.mem_product.1 hpair
  exact ⟨pair.1, hs, pair.2, ht, sum, hwalk⟩

theorem drive_of_bestPath {starts goals ids : List Int}
    (h : net.bestPath g starts goals = .ok (some ids)) :
    ∃ pair ∈ starts ×ˢ goals, ∃ cost, net.Drive g pair ids cost ∧ ids.Nodup := by
  obtain ⟨best, hbest, hids⟩ := Fallible.bind_eq_ok.1 h
  obtain ⟨b, rfl, rfl⟩ := Option.map_eq_some_iff.1 (Fallible.pure_eq_ok.1 hids)
  have hdrive : ∀ b', some b = some b' →
      ∃ pair ∈ starts ×ˢ goals, ∃ cost, net.Drive g pair b'.2 cost ∧ b'.2.Nodup := by
    refine Fallible.foldlM_keeps (P := fun best => ∀ b', best = some b' →
      ∃ pair ∈ starts ×ˢ goals, ∃ cost, net.Drive g pair b'.2 cost ∧ b'.2.Nodup) hbest (by simp) ?_
    intro pair hpair best next hbest hstep b' hb'
    obtain ⟨found, hfound, hnext⟩ := Fallible.bind_eq_ok.1 hstep
    obtain rfl := Fallible.pure_eq_ok.1 hnext
    rcases cheaper_eq_some hb' with hb' | hb'
    · exact hbest b' hb'
    · subst hb'
      exact ⟨pair, hpair, b'.1, drive_of_pathBetween hfound⟩
  exact hdrive b rfl

theorem bestPath_of_isEmpty {starts goals : List Int} (h : (starts.isEmpty || goals.isEmpty) = true) :
    net.bestPath g starts goals = .ok none := by
  have hpairs : (starts.flatMap fun s => goals.map fun t => (s, t)) = [] := by
    simp only [Bool.or_eq_true, List.isEmpty_iff] at h
    rcases h with rfl | rfl <;> simp
  simp [bestPath, hpairs, pure, Except.pure, bind, Except.bind]

theorem result_pathBetweenPoses (start goal : Pose α) (avoid : Bool) :
    (net.pathBetweenPoses start goal avoid).result = do
      match ← net.bestPath net.graph (net.startCandidates start) (net.goalCandidates goal) with
      | none => return none
      | some path =>
        if avoid && path.any fun id => (net.segment? id).any fun s => !s.drivable.isSet then
          let detour ← net.bestPath net.drivableGraph (net.startCandidates start)
            (net.goalCandidates goal)
          return some (detour.getD path)
        else return some path := by
  simp only [pathBetweenPoses]
  split
  next hempty =>
    rw [bestPath_of_isEmpty hempty, Report.result_bind]
    rfl
  next =>
    rw [Report.result_bind, Report.result_ofExcept]
    congr 1
    funext best
    cases best with
    | none => rfl
    | some path =>
      simp only
      split
      next =>
        rw [Report.result_bind, Report.result_ofExcept]
        congr 1
        funext detour
        cases detour <;> rfl
      next => rfl

theorem walk_of_pathBetweenPoses {start goal : Pose α} {avoid : Bool} {ids : List Int}
    (h : (net.pathBetweenPoses start goal avoid).result = .ok (some ids)) :
    ∃ s ∈ net.startCandidates start, ∃ t ∈ net.goalCandidates goal, ∃ cost,
      net.graph.Walk s t ids cost ∧ ids.Nodup := by
  have hbest : ∀ (g : RoutingGraph α) path, net.bestPath g (net.startCandidates start)
      (net.goalCandidates goal) = .ok (some path) →
      (∀ s t cost, g.Walk s t path cost → net.graph.Walk s t path cost) →
      ∃ s ∈ net.startCandidates start, ∃ t ∈ net.goalCandidates goal, ∃ cost,
        net.graph.Walk s t path cost ∧ path.Nodup := by
    intro g path hpath hwalks
    obtain ⟨pair, hpair, cost, hdrive, hnodup⟩ := drive_of_bestPath hpath
    obtain ⟨s, hs, t, ht, sum, hwalk⟩ := hdrive.exists_walk hpair
    exact ⟨s, hs, t, ht, sum, hwalks s t sum hwalk, hnodup⟩
  rw [result_pathBetweenPoses] at h
  obtain ⟨found, hfound, hrest⟩ := Fallible.bind_eq_ok.1 h
  cases found with
  | none => simp [pure, Except.pure] at hrest
  | some path =>
    have hpath := hbest net.graph path hfound fun _ _ _ hwalk => hwalk
    simp only at hrest
    split at hrest
    · obtain ⟨detour, hdetour, hids⟩ := Fallible.bind_eq_ok.1 hrest
      obtain rfl := Option.some.inj (Fallible.pure_eq_ok.1 hids)
      cases detour with
      | none => exact hpath
      | some other =>
        exact hbest net.drivableGraph other hdetour fun _ _ _ hwalk => walk_of_drivable hwalk
    · obtain rfl := Option.some.inj (Fallible.pure_eq_ok.1 hrest)
      exact hpath

end Sides

/-! ## Cheapest drives -/

section Exact

variable [Sided α] [ExactSums α] {net : RoadNetwork α} {g : RoutingGraph α}

/-- What is found for a pair is a drive without repetition, and no drive is cheaper. -/
structure Answers (net : RoadNetwork α) (g : RoutingGraph α) (pair : Int × Int)
    (found : Option (α × List Int)) : Prop where
  drive : ∀ b, found = some b → net.Drive g pair b.2 b.1 ∧ b.2.Nodup
  least : ∀ ids cost, net.Drive g pair ids cost → ∃ b, found = some b ∧ b.1 ≤ cost

theorem pathBetween_total (hg : g.Closed) (hw : g.Nonnegative)
    (hnodes : ∀ id ∈ g.nodes, ∃ s, net.segment? id = some s) (pair : Int × Int) :
    ∃ found, net.pathBetween g pair.1 pair.2 = .ok found ∧ net.Answers g pair found := by
  obtain ⟨path, hpath, hleast⟩ := RoutingGraph.shortestPath_total hg hw pair.1 pair.2
  cases path with
  | none =>
    refine ⟨none, Fallible.bind_eq_ok.2 ⟨none, hpath, rfl⟩, by simp, ?_⟩
    rintro ids cost ⟨first, sum, -, hwalk, -⟩
    obtain ⟨best, hbest, -⟩ := hleast ids sum hwalk
    cases hbest
  | some best =>
    obtain ⟨sum, path⟩ := best
    have hstart := (RoutingGraph.walk_of_shortestPath hpath).1.start_mem
    obtain ⟨first, hfirst⟩ := hnodes pair.1 hstart
    have hfound : net.pathBetween g pair.1 pair.2 = .ok (some (sum + first.length, path)) :=
      Fallible.bind_eq_ok.2 ⟨_, hpath, Fallible.bind_eq_ok.2 ⟨first, segment_eq_ok.2 hfirst, rfl⟩⟩
    refine ⟨_, hfound, ?drive, ?least⟩
    case drive =>
      rintro b hb
      cases hb
      exact drive_of_pathBetween hfound
    case least =>
      rintro ids cost ⟨first', sum', hfirst', hwalk, rfl⟩
      obtain rfl : first = first' := Option.some.inj (hfirst.symm.trans hfirst')
      obtain ⟨best, hbest, hle⟩ := hleast ids sum' hwalk
      cases hbest
      exact ⟨_, rfl, add_le_add_left hle _⟩

/-- A drive of one of the pairs that no drive of any pair undercuts and that costs less than
all drives of the pairs before. -/
def FirstCheapest (net : RoadNetwork α) (g : RoutingGraph α) (pairs : List (Int × Int))
    (ids : List Int) (cost : α) : Prop :=
  ∃ before pair after, pairs = before ++ pair :: after ∧ net.Drive g pair ids cost ∧
    (∀ other ∈ before, ∀ ids' cost', net.Drive g other ids' cost' → cost < cost') ∧
    ∀ other ∈ pairs, ∀ ids' cost', net.Drive g other ids' cost' → cost ≤ cost'

omit [ExactSums α] in
theorem FirstCheapest.append {pairs : List (Int × Int)} {ids : List Int} {cost : α}
    (h : net.FirstCheapest g pairs ids cost) {pair : Int × Int}
    (hpair : ∀ ids' cost', net.Drive g pair ids' cost' → cost ≤ cost') :
    net.FirstCheapest g (pairs ++ [pair]) ids cost := by
  obtain ⟨before, winner, after, rfl, hdrive, hbefore, hall⟩ := h
  refine ⟨before, winner, after ++ [pair], by simp, hdrive, hbefore, ?_⟩
  intro other hother
  rcases List.mem_append.1 hother with hother | hother
  · exact hall other hother
  · exact List.mem_singleton.1 hother ▸ hpair

theorem FirstCheapest.last {pairs : List (Int × Int)} {pair : Int × Int} {ids : List Int}
    {cost : α} (hdrive : net.Drive g pair ids cost)
    (hpair : ∀ ids' cost', net.Drive g pair ids' cost' → cost ≤ cost')
    (hpairs : ∀ other ∈ pairs, ∀ ids' cost', net.Drive g other ids' cost' → cost < cost') :
    net.FirstCheapest g (pairs ++ [pair]) ids cost := by
  refine ⟨pairs, pair, [], rfl, hdrive, hpairs, ?_⟩
  intro other hother ids' cost' hother'
  rcases List.mem_append.1 hother with hother | hother
  · exact (hpairs other hother ids' cost' hother').le
  · exact hpair ids' cost' (List.mem_singleton.1 hother ▸ hother')

omit [ExactSums α] in
theorem FirstCheapest.exists_walk {starts goals ids : List Int} {cost : α}
    (h : net.FirstCheapest g (starts ×ˢ goals) ids cost) :
    ∃ s ∈ starts, ∃ t ∈ goals, ∃ sum, g.Walk s t ids sum := by
  obtain ⟨before, pair, after, heq, hdrive, -⟩ := h
  exact hdrive.exists_walk (by simp [heq])

def Best (net : RoadNetwork α) (g : RoutingGraph α) (pairs : List (Int × Int)) :
    Option (α × List Int) → Prop
  | none => ∀ pair ∈ pairs, ∀ ids cost, ¬ net.Drive g pair ids cost
  | some b => net.FirstCheapest g pairs b.2 b.1 ∧ b.2.Nodup

theorem Best.cheaper {pairs : List (Int × Int)} {best found : Option (α × List Int)}
    {pair : Int × Int} (h : net.Best g pairs best) (hfound : net.Answers g pair found) :
    net.Best g (pairs ++ [pair]) (cheaper best found) := by
  have hnone : found = none → ∀ ids cost, ¬ net.Drive g pair ids cost := by
    intro hf ids cost hdrive
    obtain ⟨b, hb, -⟩ := hfound.least ids cost hdrive
    simp [hf] at hb
  have hleast : ∀ n, found = some n → ∀ ids cost, net.Drive g pair ids cost → n.1 ≤ cost := by
    intro n hn ids cost hdrive
    obtain ⟨b, hb, hle⟩ := hfound.least ids cost hdrive
    obtain rfl : n = b := Option.some.inj (hn.symm.trans hb)
    exact hle
  cases best with
  | none =>
    -- no pair before has a drive, so the first one found is below all of theirs
    cases found with
    | none =>
      intro other hother
      rcases List.mem_append.1 hother with hother | hother
      · exact h other hother
      · exact List.mem_singleton.1 hother ▸ hnone rfl
    | some n =>
      obtain ⟨hdrive, hnodup⟩ := hfound.drive n rfl
      have hbest : RoadNetwork.cheaper none (some n) = some n := if_pos (ExactSums.bounded n.1)
      rw [hbest]
      refine ⟨FirstCheapest.last hdrive (hleast n rfl) ?_, hnodup⟩
      intro other hother ids cost hother'
      exact absurd hother' (h other hother ids cost)
  | some b =>
    obtain ⟨hb, hbnodup⟩ := h
    cases found with
    | none => exact ⟨hb.append fun ids cost hdrive => absurd hdrive (hnone rfl ids cost), hbnodup⟩
    | some n =>
      obtain ⟨hdrive, hnodup⟩ := hfound.drive n rfl
      simp only [RoadNetwork.cheaper]
      split
      next hlt =>
        -- strictly cheaper than the best so far, which no drive before undercuts
        refine ⟨FirstCheapest.last hdrive (hleast n rfl) ?_, hnodup⟩
        obtain ⟨-, -, -, -, -, -, hall⟩ := hb
        intro other hother ids cost hother'
        exact lt_of_lt_of_le hlt (hall other hother ids cost hother')
      next hge =>
        refine ⟨hb.append fun ids cost hdrive => ?_, hbnodup⟩
        exact (not_lt.1 hge).trans (hleast n rfl ids cost hdrive)

theorem foldlM_best (hanswers : ∀ pair : Int × Int, ∃ found,
      net.pathBetween g pair.1 pair.2 = .ok found ∧ net.Answers g pair found)
    (pairs : List (Int × Int)) {before : List (Int × Int)} {best : Option (α × List Int)}
    (h : net.Best g before best) :
    ∃ final, pairs.foldlM (fun best pair => do
        return cheaper best (← net.pathBetween g pair.1 pair.2)) best = .ok final ∧
      net.Best g (before ++ pairs) final := by
  induction pairs generalizing before best with
  | nil => exact ⟨best, rfl, by simpa using h⟩
  | cons pair pairs ih =>
    obtain ⟨found, hfound, hanswer⟩ := hanswers pair
    obtain ⟨final, hfinal, hbest⟩ := ih (h.cheaper hanswer)
    refine ⟨final, ?_, by simpa using hbest⟩
    rw [List.foldlM_cons]
    exact Fallible.bind_eq_ok.2 ⟨_, Fallible.bind_eq_ok.2 ⟨found, hfound, rfl⟩, hfinal⟩

theorem bestPath_total (hg : g.Closed) (hw : g.Nonnegative)
    (hnodes : ∀ id ∈ g.nodes, ∃ s, net.segment? id = some s) (starts goals : List Int) :
    ∃ best : Option (α × List Int), net.bestPath g starts goals = .ok (best.map Prod.snd) ∧
      net.Best g (starts ×ˢ goals) best := by
  have hempty : net.Best g [] none := by simp [Best]
  obtain ⟨best, hbest, hpairs⟩ :=
    foldlM_best (pathBetween_total hg hw hnodes) (starts ×ˢ goals) hempty
  exact ⟨best, Fallible.bind_eq_ok.2 ⟨best, hbest, rfl⟩, hpairs⟩

omit [ExactSums α] in
theorem exists_segment_of_mem_graph (ha : net.Accepted) {id : Int} (h : id ∈ net.graph.nodes) :
    ∃ s, net.segment? id = some s := by
  obtain ⟨s, hs, -⟩ := (Option.any_eq_true _ _).1 ((mem_nodes_graph ha).1 h)
  exact ⟨s, hs⟩

theorem bestPath_graph (ha : net.Accepted) (hc : 0 ≤ net.laneChangeCost) (starts goals : List Int) :
    ∃ best : Option (α × List Int), net.bestPath net.graph starts goals
        = .ok (best.map Prod.snd) ∧ net.Best net.graph (starts ×ˢ goals) best :=
  bestPath_total (closed_graph ha) (fun _ _ => weight_nonneg ha hc)
    (fun _ => exists_segment_of_mem_graph ha) starts goals

omit [ExactSums α] in
theorem exists_drive (ha : net.Accepted) {start goal : Int} {ids : List Int} {sum : α}
    (h : net.graph.Walk start goal ids sum) : ∃ cost, net.Drive net.graph (start, goal) ids cost := by
  obtain ⟨first, hfirst, -⟩ :=
    (Option.any_eq_true _ _).1 ((mem_nodes_graph ha).1 h.start_mem)
  exact ⟨_, first, sum, hfirst, h, rfl⟩

/-- The path of a leg, wherever it may lead: there is none exactly when no walk leads from a
start candidate to a goal candidate. Else it is a drive between two candidates that no walk
between candidates undercuts, and of equally cheap pairs of these it belongs to the first. -/
theorem pathBetweenPoses_firstCheapest (ha : net.Accepted) (hc : 0 ≤ net.laneChangeCost)
    (start goal : Pose α) :
    ∃ found, (net.pathBetweenPoses start goal false).result = .ok found ∧
      (found = none ↔ ∀ s ∈ net.startCandidates start, ∀ t ∈ net.goalCandidates goal,
        ∀ ids cost, ¬ net.graph.Walk s t ids cost) ∧
      ∀ ids, found = some ids →
        ids ≠ [] ∧ ids.Nodup ∧
        (∃ s ∈ net.startCandidates start, ids.head? = some s) ∧
        (∃ t ∈ net.goalCandidates goal, ids.getLast? = some t) ∧
        ids.IsChain net.graph.Joins ∧
        ∃ cost, net.FirstCheapest net.graph
          (net.startCandidates start ×ˢ net.goalCandidates goal) ids cost := by
  obtain ⟨best, hbest, hpairs⟩ :=
    bestPath_graph ha hc (net.startCandidates start) (net.goalCandidates goal)
  refine ⟨best.map Prod.snd, ?result, ?none, ?some⟩
  case result =>
    rw [result_pathBetweenPoses, hbest]
    cases best <;> rfl
  case none =>
    rw [Option.map_eq_none_iff]
    constructor
    · rintro rfl s hs t ht ids sum hwalk
      obtain ⟨cost, hdrive⟩ := exists_drive ha hwalk
      exact hpairs (s, t) (List.mem_product.2 ⟨hs, ht⟩) ids cost hdrive
    · intro hnone
      cases best with
      | none => rfl
      | some b =>
        obtain ⟨s, hs, t, ht, sum, hwalk⟩ := hpairs.1.exists_walk
        exact absurd hwalk (hnone s hs t ht _ _)
  case some =>
    intro ids hids
    obtain ⟨b, rfl, rfl⟩ := Option.map_eq_some_iff.1 hids
    obtain ⟨s, hs, t, ht, sum, hwalk⟩ := hpairs.1.exists_walk
    obtain ⟨hhead, hlast⟩ := hwalk.ends
    have hne : b.2 ≠ [] := by
      intro hnil
      simp [hnil] at hhead
    exact ⟨hne, hpairs.2, ⟨s, hs, hhead⟩, ⟨t, ht, hlast⟩, hwalk.isChain, b.1, hpairs.1⟩

/-- At the crossing the second road is reached over the first. -/
theorem crossing_firstCheapest : (crossing true).Accepted ∧ 0 ≤ (crossing true).laneChangeCost ∧
    ∃ cost, (crossing true).FirstCheapest (crossing true).graph [(1, 2)] [1, 2] cost := by
  have hc : 0 ≤ (crossing true).laneChangeCost := by decide +kernel
  refine ⟨accepted_crossing true, hc, ?_⟩
  obtain ⟨found, hfound, -, hsome⟩ := pathBetweenPoses_firstCheapest (accepted_crossing true) hc
    ⟨5, 0, 0, 0⟩ ⟨20, 15, 0, Rational.quarterTurn⟩
  have hpath : ((crossing true).pathBetweenPoses ⟨5, 0, 0, 0⟩
      ⟨20, 15, 0, Rational.quarterTurn⟩ false).result = .ok (some [1, 2]) :=
    Fallible.ok_of_toOption (by decide +kernel)
  have hpairs : (crossing true).startCandidates ⟨5, 0, 0, 0⟩ ×ˢ
      (crossing true).goalCandidates ⟨20, 15, 0, Rational.quarterTurn⟩ = [(1, 2)] := by
    decide +kernel
  have hcheapest := (hsome [1, 2] (Except.ok.inj (hfound.symm.trans hpath))).2.2.2.2.2
  rwa [hpairs] at hcheapest

end Exact

end LaneRoute.RoadNetwork
