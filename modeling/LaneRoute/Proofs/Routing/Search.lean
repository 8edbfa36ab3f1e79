import LaneRoute.Proofs.Routing.Walk

/-!
# Found paths

The labels of a search tell walks: every path that is found is a walk on which no node comes
twice. Nothing is asked of the arithmetic.
-/

set_option autoImplicit false

namespace LaneRoute.RoutingGraph

variable {α : Type}

theorem lookup_settled {settled : List (Int × α)} {id : Int} {cost : α}
    (h : settled.lookup id = some cost) : (id, cost) ∈ settled := by
  obtain ⟨before, after, rfl, -⟩ := List.lookup_eq_some_iff.1 h
  simp

theorem lookup_unsettled {settled : List (Int × α)} {id : Int} (h : settled.lookup id = none) :
    id ∉ settled.map Prod.fst := by
  intro hmem
  obtain ⟨p, hp, rfl⟩ := List.mem_map.1 hmem
  simpa using List.lookup_eq_none_iff.1 h p hp

theorem arcsOf?_of_without {g : RoutingGraph α} {id other : Int} {arcs : List (Arc α)}
    (h : (g.without id).arcsOf? other = some arcs) : g.arcsOf? other = some arcs := by
  by_cases he : other = id
  · obtain ⟨-, hne⟩ := List.mem_filter.1 (mem_of_arcsOf? h)
    simp [he] at hne
  · exact arcsOf?_without he ▸ h

section Scalars

variable [Scalar α]

def Label.extend (base : Label α) (arc : Arc α) : Label α :=
  ⟨arc.target, base.cost + arc.weight, arc.target :: base.trail⟩

/-- A label tells a walk to an unsettled node over settled ones. -/
structure Label.Sound (g : RoutingGraph α) (start : Int) (settled : List (Int × α))
    (l : Label α) : Prop where
  walk : g.Walk start l.node l.trail.reverse l.cost
  fresh : l.node ∉ settled.map Prod.fst
  nodup : l.trail.Nodup
  passed : ∀ id ∈ l.trail, id = l.node ∨ id ∈ settled.map Prod.fst

namespace Label.Sound

variable {g : RoutingGraph α} {start : Int} {settled : List (Int × α)} {l base : Label α}

theorem settle (h : l.Sound g start settled) {id : Int} (cost : α) (hne : l.node ≠ id) :
    l.Sound g start ((id, cost) :: settled) where
  walk := h.walk
  fresh := by simpa [hne] using h.fresh
  nodup := h.nodup
  passed i hi := (h.passed i hi).imp_right fun hs => by
    rw [List.map_cons]
    exact List.mem_cons_of_mem _ hs

theorem extend (h : base.Sound g start settled) {arc : Arc α} (harc : g.Leaves base.node arc)
    (hfresh : arc.target ∉ ((base.node, base.cost) :: settled).map Prod.fst) :
    (base.extend arc).Sound g start ((base.node, base.cost) :: settled) where
  walk := by
    rw [Label.extend, List.reverse_cons]
    exact .onward h.walk harc
  fresh := hfresh
  nodup := by
    apply List.nodup_cons.2
    constructor
    · intro hmem
      apply hfresh
      rw [List.map_cons, List.mem_cons]
      exact h.passed _ hmem
    · exact h.nodup
  passed i hi := by
    rcases List.mem_cons.1 hi with rfl | hi
    · exact Or.inl rfl
    · rw [List.map_cons, List.mem_cons]
      exact Or.inr (h.passed i hi)

end Label.Sound

/-! ## Steps of a search -/

theorem mem_offer {frontier : List (Label α)} {new l : Label α} (h : l ∈ offer frontier new) :
    l ∈ frontier ∨ l = new := by
  unfold offer at h
  split at h
  · simpa using h
  · split at h
    · rcases List.mem_append.1 h with h | h
      · exact Or.inl (List.mem_filter.1 h).1
      · exact Or.inr (List.mem_singleton.1 h)
    · exact Or.inl h

theorem mem_relax {settled : List (Int × α)} {base l : Label α} {frontier next : List (Label α)}
    {arc : Arc α} (h : relax settled base frontier arc = .ok next) (hl : l ∈ next) :
    l ∈ frontier ∨ (arc.target ∉ settled.map Prod.fst ∧ l = base.extend arc) := by
  simp only [relax] at h
  split at h
  · split at h
    · simp at h
    · cases h
      exact Or.inl hl
  next hnone =>
    cases h
    exact (mem_offer hl).imp_right fun he => ⟨lookup_unsettled hnone, he⟩

theorem sound_spread {g : RoutingGraph α} {start : Int} {settled : List (Int × α)}
    {base : Label α} {arcs : List (Arc α)} {frontier next : List (Label α)}
    (h : arcs.foldlM (relax ((base.node, base.cost) :: settled) base) frontier = .ok next)
    (harcs : ∀ arc ∈ arcs, g.Leaves base.node arc) (hbase : base.Sound g start settled)
    (hsound : ∀ l ∈ frontier, l.Sound g start ((base.node, base.cost) :: settled)) :
    ∀ l ∈ next, l.Sound g start ((base.node, base.cost) :: settled) := by
  refine Fallible.foldlM_keeps (P := fun labels => ∀ l ∈ labels,
    l.Sound g start ((base.node, base.cost) :: settled)) h hsound ?_
  intro arc harc labels labels' hlabels hstep l hl
  rcases mem_relax hstep hl with hl | ⟨hfresh, rfl⟩
  · exact hlabels l hl
  · exact hbase.extend (harcs arc harc) hfresh

theorem sound_others {g : RoutingGraph α} {start : Int} {settled : List (Int × α)}
    {frontier : List (Label α)} (hsound : ∀ l ∈ frontier, l.Sound g start settled)
    (base : Label α) :
    ∀ l ∈ otherLabels frontier base.node, l.Sound g start ((base.node, base.cost) :: settled) := by
  intro l hl
  obtain ⟨hmem, hne⟩ := List.mem_filter.1 hl
  exact (hsound l hmem).settle _ (by simpa using hne)

theorem walk_of_search {g remaining : RoutingGraph α} {start goal : Int}
    {settled : List (Int × α)} {frontier : List (Label α)} {found : Label α}
    (h : search goal remaining settled frontier = .ok (some found))
    (hremaining : ∀ id arcs, remaining.arcsOf? id = some arcs → g.arcsOf? id = some arcs)
    (hsound : ∀ l ∈ frontier, l.Sound g start settled) :
    g.Walk start goal found.trail.reverse found.cost ∧ found.trail.Nodup := by
  fun_induction search goal remaining settled frontier with
  | case1 => simp at h
  | case2 remaining settled first rest least hgoal =>
    obtain rfl : least = found := Option.some.inj (Except.ok.inj h)
    have hleast := hsound least (cheapest_mem first rest)
    exact ⟨hgoal ▸ hleast.walk, hleast.nodup⟩
  | case3 remaining settled first rest least others _ _ ih =>
    exact ih h hremaining fun l hl => hsound l (List.mem_filter.1 hl).1
  | case4 => simp at h
  | case5 remaining settled first rest least others _ arcs harcs settled' next hspread ih =>
    refine ih h (fun id arcs hid => hremaining id arcs (arcsOf?_of_without hid)) ?_
    refine sound_spread hspread (fun arc harc => ⟨arcs, hremaining _ _ harcs, harc⟩)
      (hsound least (cheapest_mem first rest)) (sound_others hsound least)

theorem sound_start {g : RoutingGraph α} {start : Int} (h : start ∈ g.nodes) :
    (⟨start, 0, [start]⟩ : Label α).Sound g start [] where
  walk := .here h
  fresh := by simp
  nodup := by simp
  passed := by simp

theorem walk_of_shortestPath {g : RoutingGraph α} {start goal : Int} {cost : α} {ids : List Int}
    (h : g.shortestPath start goal = .ok (some (cost, ids))) :
    g.Walk start goal ids cost ∧ ids.Nodup := by
  unfold shortestPath at h
  split at h
  · simp at h
  next hstart =>
    have hnode : start ∈ g.nodes := not_not.1 hstart
    split at h
    next he =>
      cases h
      exact ⟨he ▸ .here hnode, List.nodup_singleton _⟩
    next =>
      obtain ⟨found, hfound, hpath⟩ := Fallible.map_eq_ok.1 h
      obtain ⟨l, rfl, hl⟩ := Option.map_eq_some_iff.1 hpath
      cases hl
      have hwalk := walk_of_search hfound (fun _ _ hid => hid) (by simpa using sound_start hnode)
      exact ⟨hwalk.1, List.nodup_reverse.2 hwalk.2⟩

end Scalars

end LaneRoute.RoutingGraph
