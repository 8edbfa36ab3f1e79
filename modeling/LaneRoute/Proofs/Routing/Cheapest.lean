import LaneRoute.Proofs.Routing.Search

/-!
# Cheapest paths

In exact arithmetic and without negative weights the search settles nodes in the order of
their distances. It never fails, it finds a path whenever there is a walk, and no walk to the
goal is cheaper than the path.
-/

set_option autoImplicit false

namespace LaneRoute.RoutingGraph

variable {α : Type} [Scalar α] [ExactSums α]

def Nonnegative (g : RoutingGraph α) : Prop := ∀ id arc, g.Leaves id arc → 0 ≤ arc.weight

theorem Walk.cost_nonneg {g : RoutingGraph α} {start stop : Int} {ids : List Int} {cost : α}
    (h : g.Walk start stop ids cost) (hw : g.Nonnegative) : 0 ≤ cost := by
  induction h with
  | here => exact le_refl _
  | onward _ harc ih => exact add_nonneg ih (hw _ _ harc)

theorem cheapest_le (best : Label α) (rest : List (Label α)) :
    ∀ l ∈ best :: rest, (cheapest best rest).cost ≤ l.cost := by
  induction rest generalizing best with
  | nil => simp [cheapest]
  | cons next rest ih =>
    intro l hl
    have hih := ih (if next.cost < best.cost then next else best)
    have hkept := hih _ (List.mem_cons_self)
    rw [cheapest]
    rcases List.mem_cons.1 hl with rfl | hl
    · apply hkept.trans
      split
      next hlt => exact hlt.le
      next => exact le_refl _
    · rcases List.mem_cons.1 hl with rfl | hl
      · apply hkept.trans
        split
        next => exact le_refl _
        next hlt => exact not_lt.1 hlt
      · exact hih l (List.mem_cons_of_mem _ hl)

/-! ## Better labels -/

def Offers (frontier : List (Label α)) (node : Int) (cost : α) : Prop :=
  ∃ l ∈ frontier, l.node = node ∧ l.cost ≤ cost

def Distinct (frontier : List (Label α)) : Prop := (frontier.map (·.node)).Nodup

omit [Scalar α] [ExactSums α] in
theorem distinct_others {frontier : List (Label α)} (h : Distinct frontier) (id : Int) :
    Distinct (otherLabels frontier id) := h.sublist (List.filter_sublist.map _)

omit [Scalar α] [ExactSums α] in
theorem distinct_append {frontier : List (Label α)} {new : Label α} (h : Distinct frontier)
    (hnew : ∀ l ∈ frontier, l.node ≠ new.node) : Distinct (frontier ++ [new]) := by
  rw [Distinct, List.map_append, List.nodup_append]
  refine ⟨h, by simp, ?_⟩
  intro id hid other hother
  obtain ⟨l, hl, rfl⟩ := List.mem_map.1 hid
  simp only [List.map_cons, List.map_nil, List.mem_singleton] at hother
  exact hother ▸ hnew l hl

omit [ExactSums α] in
theorem distinct_offer {frontier : List (Label α)} (h : Distinct frontier) (new : Label α) :
    Distinct (offer frontier new) := by
  unfold offer
  split
  next hnone =>
    apply distinct_append h
    intro l hl
    simpa using List.find?_eq_none.1 hnone l hl
  next =>
    split
    · apply distinct_append (distinct_others h _)
      intro l hl
      simpa using (List.mem_filter.1 hl).2
    · exact h

theorem offers_offer {frontier : List (Label α)} (h : Distinct frontier) (new : Label α)
    {node : Int} {cost : α} (ho : Offers (frontier ++ [new]) node cost) :
    Offers (offer frontier new) node cost := by
  obtain ⟨l, hl, rfl, hcost⟩ := ho
  unfold offer
  split
  · exact ⟨l, hl, rfl, hcost⟩
  next old hold =>
    have hnode : old.node = new.node := by simpa using List.find?_some hold
    have hmem := List.mem_of_find?_eq_some hold
    split
    next hlt =>
      by_cases he : l.node = new.node
      · refine ⟨new, by simp, he.symm, ?_⟩
        rcases List.mem_append.1 hl with hl | hl
        · -- two labels of one node are one label
          have hlo : l = old := List.inj_on_of_nodup_map h hl hmem (he.trans hnode.symm)
          exact hlt.le.trans (hlo ▸ hcost)
        · exact List.mem_singleton.1 hl ▸ hcost
      · refine ⟨l, List.mem_append_left _ (List.mem_filter.2 ⟨?_, by simpa using he⟩), rfl, hcost⟩
        rcases List.mem_append.1 hl with hl | hl
        · exact hl
        · exact absurd (congrArg Label.node (List.mem_singleton.1 hl)) he
    next hge =>
      rcases List.mem_append.1 hl with hl | hl
      · exact ⟨l, hl, rfl, hcost⟩
      · rw [List.mem_singleton.1 hl] at hcost ⊢
        exact ⟨old, hmem, hnode, (not_lt.1 hge).trans hcost⟩

/-! ## Following arcs -/

theorem le_spread {settled : List (Int × α)} {base : Label α} {arcs : List (Arc α)}
    {frontier next : List (Label α)} (h : arcs.foldlM (relax settled base) frontier = .ok next)
    (hfrontier : ∀ l ∈ frontier, base.cost ≤ l.cost) (hw : ∀ arc ∈ arcs, 0 ≤ arc.weight) :
    ∀ l ∈ next, base.cost ≤ l.cost := by
  refine Fallible.foldlM_keeps (P := fun labels => ∀ l ∈ labels, base.cost ≤ l.cost) h hfrontier ?_
  intro arc harc labels labels' hlabels hstep l hl
  rcases mem_relax hstep hl with hl | ⟨-, rfl⟩
  · exact hlabels l hl
  · exact le_add_of_nonneg_right (hw arc harc)

/-- What following an arc leaves: labels of distinct nodes that offer what was offered before,
and the arc unless its target is settled. -/
theorem relax_spec {settled : List (Int × α)} {base : Label α} {frontier next : List (Label α)}
    {arc : Arc α} (h : relax settled base frontier arc = .ok next) (hd : Distinct frontier) :
    Distinct next ∧ (∀ node cost, Offers frontier node cost → Offers next node cost) ∧
      (arc.target ∈ settled.map Prod.fst ∨ Offers next arc.target (base.cost + arc.weight)) := by
  simp only [relax] at h
  split at h
  next least hleast =>
    split at h
    · simp at h
    · cases h
      exact ⟨hd, fun _ _ ho => ho, Or.inl (List.mem_map_of_mem (lookup_settled hleast))⟩
  next =>
    cases h
    refine ⟨distinct_offer hd _, fun node cost ho => offers_offer hd _ ?_, Or.inr ?_⟩
    · obtain ⟨l, hl, hnode, hcost⟩ := ho
      exact ⟨l, List.mem_append_left _ hl, hnode, hcost⟩
    · exact offers_offer hd _ ⟨_, List.mem_append_right _ (List.mem_singleton.2 rfl), rfl, le_rfl⟩

theorem spread_spec {settled : List (Int × α)} {base : Label α} {arcs : List (Arc α)}
    {frontier next : List (Label α)} (h : arcs.foldlM (relax settled base) frontier = .ok next)
    (hd : Distinct frontier) :
    Distinct next ∧ (∀ node cost, Offers frontier node cost → Offers next node cost) ∧
      ∀ arc ∈ arcs, arc.target ∈ settled.map Prod.fst ∨
        Offers next arc.target (base.cost + arc.weight) := by
  induction arcs generalizing frontier with
  | nil =>
    obtain rfl := Fallible.pure_eq_ok.1 h
    exact ⟨hd, fun _ _ ho => ho, by simp⟩
  | cons arc arcs ih =>
    rw [List.foldlM_cons] at h
    obtain ⟨mid, hmid, hrest⟩ := Fallible.bind_eq_ok.1 h
    obtain ⟨hdmid, hkeep, harc⟩ := relax_spec hmid hd
    obtain ⟨hdnext, hkeep', harcs⟩ := ih hrest hdmid
    refine ⟨hdnext, fun node cost ho => hkeep' _ _ (hkeep _ _ ho), ?_⟩
    intro a ha
    rcases List.mem_cons.1 ha with rfl | ha
    · exact harc.imp_right (hkeep' _ _)
    · exact harcs a ha

/-- Following an arc does not contradict what is settled when nothing settled costs more. -/
theorem relax_total {settled : List (Int × α)} {base : Label α} {arc : Arc α}
    (hsettled : ∀ p ∈ settled, p.2 ≤ base.cost) (hw : 0 ≤ arc.weight)
    (frontier : List (Label α)) : ∃ next, relax settled base frontier arc = .ok next := by
  simp only [relax]
  split
  next least hleast =>
    have hle : least ≤ base.cost := hsettled _ (lookup_settled hleast)
    have hnot : ¬ base.cost + arc.weight < least :=
      not_lt.2 (hle.trans (le_add_of_nonneg_right hw))
    exact ⟨frontier, if_neg hnot⟩
  next => exact ⟨_, rfl⟩

theorem spread_total {settled : List (Int × α)} {base : Label α} {arcs : List (Arc α)}
    (hsettled : ∀ p ∈ settled, p.2 ≤ base.cost) (hw : ∀ arc ∈ arcs, 0 ≤ arc.weight)
    (frontier : List (Label α)) :
    ∃ next, arcs.foldlM (relax settled base) frontier = .ok next := by
  induction arcs generalizing frontier with
  | nil => exact ⟨frontier, rfl⟩
  | cons arc arcs ih =>
    obtain ⟨mid, hmid⟩ := relax_total hsettled (hw arc (by simp)) frontier
    obtain ⟨next, hnext⟩ := ih (fun a ha => hw a (by simp [ha])) mid
    refine ⟨next, ?_⟩
    rw [List.foldlM_cons]
    exact Fallible.bind_eq_ok.2 ⟨mid, hmid, hnext⟩

/-! ## Explored parts of a graph -/

/-- How far a search has come. Settled nodes have their distances and were left by all their
arcs; the labels tell the cheapest walks that go one arc beyond them. -/
structure Explored (g : RoutingGraph α) (start : Int) (remaining : RoutingGraph α)
    (settled : List (Int × α)) (frontier : List (Label α)) : Prop where
  sound : ∀ l ∈ frontier, l.Sound g start settled
  distinct : Distinct frontier
  rest : ∀ id, id ∉ settled.map Prod.fst → remaining.arcsOf? id = g.arcsOf? id
  started : start ∈ settled.map Prod.fst ∨ Offers frontier start 0
  least : ∀ p ∈ settled, ∀ ids cost, g.Walk start p.1 ids cost → p.2 ≤ cost
  ordered : ∀ p ∈ settled, ∀ l ∈ frontier, p.2 ≤ l.cost
  relaxed : ∀ p ∈ settled, ∀ arc, g.Leaves p.1 arc →
    arc.target ∈ settled.map Prod.fst ∨ Offers frontier arc.target (p.2 + arc.weight)

omit [ExactSums α] in
theorem offers_others {frontier : List (Label α)} {node : Int} {cost : α}
    (h : Offers frontier node cost) (id : Int) :
    node = id ∨ Offers (otherLabels frontier id) node cost := by
  obtain ⟨l, hl, rfl, hcost⟩ := h
  by_cases he : l.node = id
  · exact Or.inl he
  · exact Or.inr ⟨l, List.mem_filter.2 ⟨hl, by simpa using he⟩, rfl, hcost⟩

namespace Explored

variable {g remaining : RoutingGraph α} {start : Int} {settled : List (Int × α)}
  {frontier : List (Label α)}

theorem init (h : start ∈ g.nodes) : Explored g start g [] [⟨start, 0, [start]⟩] where
  sound := by simpa using sound_start h
  distinct := List.nodup_singleton _
  rest _ _ := rfl
  started := Or.inr ⟨_, List.mem_singleton.2 rfl, rfl, le_rfl⟩
  least := by simp
  ordered := by simp
  relaxed := by simp

/-- A walk that leaves the settled nodes is no cheaper than some label. -/
theorem offered (he : Explored g start remaining settled frontier) (hw : g.Nonnegative)
    {stop : Int} {ids : List Int} {cost : α} (h : g.Walk start stop ids cost)
    (hstop : stop ∉ settled.map Prod.fst) : ∃ l ∈ frontier, l.cost ≤ cost := by
  induction h with
  | here =>
    obtain ⟨l, hl, -, hcost⟩ := he.started.resolve_left hstop
    exact ⟨l, hl, hcost⟩
  | @onward stop ids cost arc hwalk harc ih =>
    by_cases hmem : stop ∈ settled.map Prod.fst
    · -- the walk leaves the settled nodes here
      obtain ⟨p, hp, rfl⟩ := List.mem_map.1 hmem
      obtain ⟨l, hl, -, hcost⟩ := (he.relaxed p hp arc harc).resolve_left hstop
      have hleast := he.least p hp ids cost hwalk
      exact ⟨l, hl, hcost.trans (add_le_add_left hleast _)⟩
    · obtain ⟨l, hl, hcost⟩ := ih hmem
      exact ⟨l, hl, hcost.trans (le_add_of_nonneg_right (hw _ _ harc))⟩

omit [ExactSums α] in
theorem exists_arcs (he : Explored g start remaining settled frontier) (hg : g.Closed)
    {l : Label α} (hl : l ∈ frontier) :
    ∃ arcs, remaining.arcsOf? l.node = some arcs ∧ g.arcsOf? l.node = some arcs := by
  have hsound := he.sound l hl
  obtain ⟨arcs, harcs⟩ := Option.isSome_iff_exists.1
    (arcsOf?_isSome_iff.2 (hsound.walk.stop_mem hg))
  exact ⟨arcs, (he.rest _ hsound.fresh).trans harcs, harcs⟩

theorem settle (he : Explored g start remaining settled frontier) (hw : g.Nonnegative)
    {base : Label α} (hbase : base ∈ frontier) (hleast : ∀ l ∈ frontier, base.cost ≤ l.cost)
    {arcs : List (Arc α)} (harcs : g.arcsOf? base.node = some arcs) {next : List (Label α)}
    (hspread : arcs.foldlM (relax ((base.node, base.cost) :: settled) base)
      (otherLabels frontier base.node) = .ok next) :
    Explored g start (remaining.without base.node) ((base.node, base.cost) :: settled) next := by
  have hsound := he.sound base hbase
  have hleaves : ∀ arc ∈ arcs, g.Leaves base.node arc := fun arc harc => ⟨arcs, harcs, harc⟩
  obtain ⟨hdistinct, hkeep, hfollowed⟩ :=
    spread_spec hspread (distinct_others he.distinct base.node)
  have hbeyond : ∀ l ∈ next, base.cost ≤ l.cost :=
    le_spread hspread (fun l hl => hleast l (List.mem_filter.1 hl).1)
      fun arc harc => hw _ _ (hleaves arc harc)
  have hoffers : ∀ node cost, node ∈ settled.map Prod.fst ∨ Offers frontier node cost →
      node ∈ ((base.node, base.cost) :: settled).map Prod.fst ∨ Offers next node cost := by
    intro node cost h
    rw [List.map_cons, List.mem_cons, or_assoc]
    rcases h with h | h
    · exact Or.inr (Or.inl h)
    · exact (offers_others h base.node).imp_right fun h => Or.inr (hkeep _ _ h)
  refine ⟨?sound, hdistinct, ?rest, hoffers _ _ he.started, ?least, ?ordered, ?relaxed⟩
  case sound => exact sound_spread hspread hleaves hsound (sound_others he.sound base)
  case rest =>
    intro id hid
    rw [List.map_cons, List.mem_cons, not_or] at hid
    rw [arcsOf?_without hid.1, he.rest id hid.2]
  case least =>
    intro p hp ids cost hwalk
    rcases List.mem_cons.1 hp with rfl | hp
    · obtain ⟨l, hl, hcost⟩ := he.offered hw hwalk hsound.fresh
      exact (hleast l hl).trans hcost
    · exact he.least p hp ids cost hwalk
  case ordered =>
    intro p hp l hl
    rcases List.mem_cons.1 hp with rfl | hp
    · exact hbeyond l hl
    · exact (he.ordered p hp base hbase).trans (hbeyond l hl)
  case relaxed =>
    intro p hp arc harc
    rcases List.mem_cons.1 hp with rfl | hp
    · obtain ⟨all, hall, hmem⟩ := harc
      obtain rfl : arcs = all := Option.some.inj (harcs.symm.trans hall)
      exact hfollowed arc hmem
    · exact hoffers _ _ (he.relaxed p hp arc harc)

end Explored

/-! ## The search -/

/-- From an explored part on the search does not fail, and no walk to an unsettled goal is
cheaper than what it finds. -/
theorem search_total {g remaining : RoutingGraph α} {start goal : Int}
    {settled : List (Int × α)} {frontier : List (Label α)} (hg : g.Closed) (hw : g.Nonnegative)
    (he : Explored g start remaining settled frontier) (hgoal : goal ∉ settled.map Prod.fst) :
    ∃ found, search goal remaining settled frontier = .ok found ∧
      ∀ ids cost, g.Walk start goal ids cost → ∃ l, found = some l ∧ l.cost ≤ cost := by
  fun_induction search goal remaining settled frontier with
  | case1 =>
    refine ⟨none, rfl, fun ids cost hwalk => ?_⟩
    obtain ⟨l, hl, -⟩ := he.offered hw hwalk hgoal
    simp at hl
  | case2 remaining settled first rest least =>
    refine ⟨some least, rfl, fun ids cost hwalk => ⟨least, rfl, ?_⟩⟩
    obtain ⟨l, hl, hcost⟩ := he.offered hw hwalk hgoal
    exact (cheapest_le first rest l hl).trans hcost
  | case3 remaining settled first rest least others _ hnone =>
    -- does not happen: the node of a label is still to be left
    obtain ⟨arcs, harcs, -⟩ := he.exists_arcs hg (cheapest_mem first rest)
    simp [least, harcs] at hnone
  | case4 remaining settled first rest least others _ arcs hfound settled' fault hfault =>
    -- nor does this: only a negative weight can undercut what is settled
    obtain ⟨all, hall, hleaves⟩ := he.exists_arcs hg (cheapest_mem first rest)
    obtain rfl : arcs = all := Option.some.inj (hfound.symm.trans hall)
    have hsettled : ∀ p ∈ settled', p.2 ≤ least.cost := by
      intro p hp
      rcases List.mem_cons.1 hp with rfl | hp
      · exact le_rfl
      · exact he.ordered p hp least (cheapest_mem first rest)
    obtain ⟨next, hnext⟩ := spread_total hsettled
      (fun arc harc => hw _ _ ⟨arcs, hleaves, harc⟩) others
    simp [hnext] at hfault
  | case5 remaining settled first rest least others hne arcs hfound settled' next hspread ih =>
    obtain ⟨all, hall, hleaves⟩ := he.exists_arcs hg (cheapest_mem first rest)
    obtain rfl : arcs = all := Option.some.inj (hfound.symm.trans hall)
    apply ih (he.settle hw (cheapest_mem first rest) (cheapest_le first rest) hleaves hspread)
    rw [List.map_cons, List.mem_cons, not_or]
    exact ⟨Ne.symm hne, hgoal⟩

theorem shortestPath_total {g : RoutingGraph α} (hg : g.Closed) (hw : g.Nonnegative)
    (start goal : Int) :
    ∃ found, g.shortestPath start goal = .ok found ∧
      ∀ ids cost, g.Walk start goal ids cost → ∃ best, found = some best ∧ best.1 ≤ cost := by
  unfold shortestPath
  split
  next hstart => exact ⟨none, rfl, fun ids cost hwalk => absurd hwalk.start_mem hstart⟩
  next hstart =>
    split
    next =>
      exact ⟨_, rfl, fun ids cost hwalk => ⟨_, rfl, hwalk.cost_nonneg hw⟩⟩
    next =>
      have hinit : Explored g start g [] [⟨start, 0, [start]⟩] := .init (not_not.1 hstart)
      have hgoal : goal ∉ ([] : List (Int × α)).map Prod.fst := by simp
      obtain ⟨found, hfound, hbest⟩ := search_total hg hw hinit hgoal
      refine ⟨_, Fallible.map_eq_ok.2 ⟨found, hfound, rfl⟩, fun ids cost hwalk => ?_⟩
      obtain ⟨l, rfl, hcost⟩ := hbest ids cost hwalk
      exact ⟨_, rfl, hcost⟩

end LaneRoute.RoutingGraph
