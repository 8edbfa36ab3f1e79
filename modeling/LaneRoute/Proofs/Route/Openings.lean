import LaneRoute.Proofs.Route.Grouping
import LaneRoute.Proofs.Routing.Walk

/-!
# Where sections open

A walk is folded into sections one segment after another. The last section prefers the last
segment, and every lane change leads beside that segment, whatever the lateral references are.
So a section can open at a longitudinal step only, and it stays linked to the section before.
-/

set_option autoImplicit false

namespace LaneRoute.RoadNetwork

variable {α : Type} {net : RoadNetwork α} {id next : Int}

/-! ## Steps -/

def Succeeds (net : RoadNetwork α) (id next : Int) : Prop :=
  ∃ s, net.segment? id = some s ∧ next ∈ s.successors ∧ net.isRoad next = true

def Changes (net : RoadNetwork α) (id next : Int) : Prop :=
  ∃ s, net.segment? id = some s ∧ next ∈ net.changeTargets s

theorem Leads.succeeds_or_changes (h : net.Leads id next) :
    net.Succeeds id next ∨ net.Changes id next := by
  obtain ⟨s, hs, -, hnext | hnext⟩ := h
  · exact Or.inl ⟨s, hs, hnext⟩
  · exact Or.inr ⟨s, hs, hnext⟩

theorem besideRoad_of_sideTarget {side : Segment α → Side} {s : Segment α}
    (hs : net.segment? id = some s) (h : net.sideTarget? (side s) = some next) :
    net.besideRoad side id = some next := by
  obtain ⟨hneighbor, hpermitted⟩ := Option.filter_eq_some_iff.1 h
  simp only [Bool.and_eq_true] at hpermitted
  exact besideRoad_eq_some.2 ⟨s, hs, hneighbor, hpermitted.1.2, hpermitted.2⟩

theorem mem_lanes_of_changes (hid : net.isRoad id = true) (h : net.Changes id next) :
    next ∈ net.lanes id := by
  obtain ⟨s, hs, hnext⟩ := h
  rw [mem_lanes hid]
  rcases List.mem_append.1 hnext with hleft | hright
  · have hstep : net.besideRoad (·.left) id = some next :=
      besideRoad_of_sideTarget hs (Option.mem_toList.1 hleft)
    exact Or.inl (mem_of_step List.mem_cons_self hstep)
  · have hstep : net.besideRoad (·.right) id = some next :=
      besideRoad_of_sideTarget hs (Option.mem_toList.1 hright)
    exact Or.inr (mem_of_step List.mem_cons_self hstep)

end LaneRoute.RoadNetwork

namespace LaneRoute.RouteSections

open RoadNetwork

variable {α : Type} {net : RoadNetwork α} {path onRoute : List Int} {sections : List RouteSection}
  {place index : Nat} {id : Int}

/-! ## Parts of a path -/

theorem withoutRepeats_concat (ids : List Int) (id : Int) : withoutRepeats (ids ++ [id]) =
    if ids.getLast? = some id then withoutRepeats ids else withoutRepeats ids ++ [id] := by
  fun_induction withoutRepeats ids with
  | case1 a rest ih => simpa [withoutRepeats] using ih
  | case2 a b rest hne ih =>
    simp only [List.cons_append, withoutRepeats, if_neg hne, List.getLast?_cons_cons] at ih ⊢
    rw [ih]
    split <;> rfl
  | case3 ids hshort =>
    match ids with
    | [] => rfl
    | [a] =>
      by_cases ha : a = id <;> simp [withoutRepeats, ha]
    | a :: b :: rest => exact absurd rfl (hshort a b rest)

theorem getLast?_withoutRepeats (ids : List Int) :
    (withoutRepeats ids).getLast? = ids.getLast? := by
  induction ids using List.reverseRecOn with
  | nil => rfl
  | append_singleton ids id ih =>
    rw [withoutRepeats_concat]
    split
    next hlast => rw [ih, hlast, List.getLast?_concat]
    next => rw [List.getLast?_concat, List.getLast?_concat]

theorem withoutRepeats_prefix (ids more : List Int) :
    withoutRepeats ids <+: withoutRepeats (ids ++ more) := by
  induction more using List.reverseRecOn with
  | nil => simp
  | append_singleton more id ih =>
    rw [← List.append_assoc, withoutRepeats_concat]
    split
    · exact ih
    · exact ih.trans (List.prefix_append _ _)

/-! ## The fold, place by place -/

def sectionsAfter (net : RoadNetwork α) (path : List Int) (count : Nat) :
    Except Fault (List RouteSection) := do
  (withoutRepeats (path.take count)).foldlM (fold net (← routeIds net (withoutRepeats path))) []

/-- The segment at a place of a path opens the section with an index. -/
structure Opens (net : RoadNetwork α) (path : List Int) (place index : Nat) (id : Int) : Prop where
  step : path[place]? = some id
  before : ∃ sections, sectionsAfter net path place = .ok sections ∧ sections.length = index
  after : ∃ sections, sectionsAfter net path (place + 1) = .ok sections ∧
    sections.length = index + 1

theorem sectionsAfter_eq (hids : routeIds net (withoutRepeats path) = .ok onRoute) (count : Nat) :
    sectionsAfter net path count
      = (withoutRepeats (path.take count)).foldlM (fold net onRoute) [] := by
  rw [sectionsAfter, hids]
  rfl

theorem sectionsAfter_zero (hids : routeIds net (withoutRepeats path) = .ok onRoute) :
    sectionsAfter net path 0 = .ok [] := by
  rw [sectionsAfter_eq hids]
  rfl

theorem sectionsAfter_succ (hids : routeIds net (withoutRepeats path) = .ok onRoute)
    (hid : path[place]? = some id) : sectionsAfter net path (place + 1) =
      if (path.take place).getLast? = some id then sectionsAfter net path place
      else sectionsAfter net path place >>= fun sections => fold net onRoute sections id := by
  have htake : path.take (place + 1) = path.take place ++ [id] := by
    rw [List.take_add_one, hid]
    rfl
  rw [sectionsAfter_eq hids, sectionsAfter_eq hids, htake, withoutRepeats_concat]
  split
  · rfl
  · rw [List.foldlM_append]
    simp [List.foldlM_cons]

theorem Folded.preferred {ids : List Int} (h : Folded net onRoute ids sections) :
    sections.head?.map (·.preferred) = ids.getLast? := by
  obtain ⟨runs, rfl, hruns⟩ := h
  rw [getLast?_flatten (List.rel_reverse hruns), List.getLast?_reverse]

theorem preferred_sectionsAfter (hids : routeIds net (withoutRepeats path) = .ok onRoute)
    {count : Nat} (h : sectionsAfter net path count = .ok sections) :
    sections.head?.map (·.preferred) = (path.take count).getLast? := by
  have hnone : Folded net onRoute [] [] := ⟨[], rfl, .nil⟩
  rw [sectionsAfter_eq hids] at h
  have hlast := (hnone.foldlM h).preferred
  rwa [List.nil_append, getLast?_withoutRepeats] at hlast

theorem foldlM_keeps_below {ids : List Int} {t : RouteSection} {below final : List RouteSection}
    (h : ids.foldlM (fold net onRoute) (t :: below) = .ok final) :
    ∃ more s, final = more ++ s :: below ∧ s.primitives = t.primitives := by
  refine Fallible.foldlM_keeps (P := fun sections => ∃ more s, sections = more ++ s :: below ∧
    s.primitives = t.primitives) h ⟨[], t, rfl, rfl⟩ ?_
  rintro id - sections next ⟨more, s, hsections, hlanes⟩ hstep
  rcases fold_cases hstep with ⟨lanes, -, -, rfl, -⟩ | ⟨last, before, hlast, -, rfl⟩
  · exact ⟨_ :: more, s, by rw [hsections]; rfl, hlanes⟩
  · rw [hsections] at hlast
    cases more with
    | nil =>
      obtain ⟨rfl, rfl⟩ := List.cons.inj hlast
      exact ⟨[], ⟨id, s.primitives⟩, rfl, hlanes⟩
    | cons first more =>
      obtain ⟨rfl, rfl⟩ := List.cons.inj hlast
      exact ⟨⟨id, first.primitives⟩ :: more, s, rfl, hlanes⟩

theorem sectionsAfter_length (hids : routeIds net (withoutRepeats path) = .ok onRoute)
    (h : ofPath net path = .ok sections) :
    sectionsAfter net path path.length = .ok sections.reverse := by
  obtain ⟨ids, hids', hfold⟩ := Fallible.bind_eq_ok.1 h
  obtain rfl := Except.ok.inj (hids.symm.trans hids')
  obtain ⟨final, hfinal, hsections⟩ := Fallible.bind_eq_ok.1 hfold
  rw [sectionsAfter_eq hids, List.take_length, hfinal, ← Fallible.pure_eq_ok.1 hsections,
    List.reverse_reverse]

/-- Once a section has been opened, it stays where it is with its lanes, and those before it stay
as they are. -/
theorem exists_final (hids : routeIds net (withoutRepeats path) = .ok onRoute)
    (h : ofPath net path = .ok sections) {count : Nat} {s : RouteSection}
    {before : List RouteSection} (hreached : sectionsAfter net path count = .ok (s :: before)) :
    ∃ t more, sections = before.reverse ++ t :: more ∧ t.primitives = s.primitives := by
  obtain ⟨rest, hrest⟩ := withoutRepeats_prefix (path.take count) (path.drop count)
  have hfinal := sectionsAfter_length hids h
  rw [sectionsAfter_eq hids] at hreached hfinal
  rw [List.take_length, ← List.take_append_drop count path, ← hrest, List.foldlM_append,
    hreached] at hfinal
  obtain ⟨more, t, hsections, hlanes⟩ := foldlM_keeps_below hfinal
  refine ⟨t, more.reverse, ?_, hlanes⟩
  rw [← List.reverse_reverse sections, hsections]
  simp

/-! ## Openings -/

theorem Opens.cases (hids : routeIds net (withoutRepeats path) = .ok onRoute)
    (h : Opens net path place index id) : ∃ before primitives, before.length = index ∧
      sectionsAfter net path (place + 1) = .ok (⟨id, primitives⟩ :: before) ∧ id ∈ primitives ∧
      before.head?.map (·.preferred) = (path.take place).getLast? ∧
      ∀ last ∈ (path.take place).getLast?, ∃ lanes,
        net.lateralNeighbors last = .ok lanes ∧ id ∉ lanes := by
  obtain ⟨hid, ⟨before, hbefore, rfl⟩, now, hnow, hlength⟩ := h
  have hpreferred := preferred_sectionsAfter hids hbefore
  have hstep := sectionsAfter_succ hids hid
  rw [hnow, hbefore] at hstep
  split at hstep
  · obtain rfl := Except.ok.inj hstep
    omega
  rcases fold_cases hstep.symm with ⟨lanes, -, hmem, rfl, hapart⟩ | ⟨last, earlier, rfl, -, rfl⟩
  · refine ⟨before, _, rfl, hnow, hmem, hpreferred, fun last hlast => ?_⟩
    rw [← hpreferred] at hlast
    obtain ⟨s, hs, rfl⟩ := Option.map_eq_some_iff.1 hlast
    exact hapart s hs
  · simp at hlength

theorem exists_opens (hids : routeIds net (withoutRepeats path) = .ok onRoute) {count : Nat}
    {reached : List RouteSection} (hcount : count ≤ path.length)
    (h : sectionsAfter net path count = .ok reached) (hindex : index < reached.length) :
    ∃ place id, Opens net path place index id := by
  induction count generalizing reached with
  | zero =>
    rw [sectionsAfter_zero hids] at h
    simp [← Except.ok.inj h] at hindex
  | succ count ih =>
    have hid := List.getElem?_eq_getElem (Nat.lt_of_succ_le hcount)
    have hstep := sectionsAfter_succ hids hid
    rw [h] at hstep
    split at hstep
    · exact ih (Nat.le_of_succ_le hcount) hstep.symm hindex
    obtain ⟨before, hbefore, hfold⟩ := Fallible.bind_eq_ok.1 hstep.symm
    have hearlier := ih (Nat.le_of_succ_le hcount) hbefore
    rcases fold_cases hfold with ⟨lanes, -, -, rfl, -⟩ | ⟨last, earlier, rfl, -, rfl⟩
    · by_cases hlast : index = before.length
      · exact ⟨count, _, hid, ⟨before, hbefore, hlast.symm⟩, _, h, by simp [hlast]⟩
      · rw [List.length_cons] at hindex
        exact hearlier (by omega)
    · exact hearlier hindex

theorem getLast?_take_succ {last : Int} (h : path[place]? = some last) :
    (path.take (place + 1)).getLast? = some last := by
  rw [List.take_add_one, h]
  exact List.getLast?_concat

theorem exists_place_before {last : Int} (hid : path[place]? = some id)
    (h : (path.take place).getLast? = some last) :
    ∃ before, place = before + 1 ∧ path[before]? = some last := by
  cases place with
  | zero => simp at h
  | succ before =>
    obtain ⟨hlt, -⟩ := List.getElem?_eq_some_iff.1 hid
    have hget := List.getElem?_eq_getElem (Nat.lt_of_succ_lt hlt)
    rw [getLast?_take_succ hget] at h
    exact ⟨before, rfl, hget.trans h⟩

/-! ## Walks -/

section Walks

variable [Scalar α] {start stop : Int} {cost : α}

theorem isRoad_of_walk (ha : net.Accepted) (hwalk : net.graph.Walk start stop path cost)
    (hid : path[place]? = some id) : net.isRoad id = true :=
  (mem_nodes_graph ha).1 (hwalk.mem_nodes (closed_graph ha) id (List.mem_of_getElem? hid))

theorem leads_of_walk (ha : net.Accepted) (hwalk : net.graph.Walk start stop path cost)
    {last next : Int} (hlast : path[place]? = some last) (hnext : path[place + 1]? = some next) :
    net.Leads last next := by
  obtain ⟨_, rfl⟩ := List.getElem?_eq_some_iff.1 hlast
  obtain ⟨hlt, rfl⟩ := List.getElem?_eq_some_iff.1 hnext
  exact (joins_graph ha).1 (List.isChain_iff_getElem.1 hwalk.isChain place hlt)

theorem Opens.not_changes (ha : net.Accepted) (hwalk : net.graph.Walk start stop path cost)
    (hids : routeIds net (withoutRepeats path) = .ok onRoute)
    {last next : Int} (hlast : path[place]? = some last)
    (h : Opens net path (place + 1) index next) : ¬ net.Changes last next := by
  intro hchanges
  obtain ⟨before, primitives, -, -, -, -, hapart⟩ := h.cases hids
  obtain ⟨lanes, hlanes, hmem⟩ := hapart last (getLast?_take_succ hlast)
  have hroad := isRoad_of_walk ha hwalk hlast
  rw [lateralNeighbors_eq_ok hroad] at hlanes
  obtain rfl := Except.ok.inj hlanes
  exact hmem (mem_lanes_of_changes hroad hchanges)

/-- What opens a section is one of its lanes and follows the lane that the section before
prefers. -/
theorem Opens.linked (ha : net.Accepted) (hwalk : net.graph.Walk start stop path cost)
    (hids : routeIds net (withoutRepeats path) = .ok onRoute)
    (h : ofPath net path = .ok sections) {s t : RouteSection} (hs : sections[index]? = some s)
    (ht : sections[index + 1]? = some t) (hopens : Opens net path place (index + 1) id) :
    id ∈ t.primitives ∧ net.Succeeds s.preferred id := by
  obtain ⟨before, primitives, hlength, hreached, hmem, hpreferred, -⟩ := hopens.cases hids
  obtain ⟨t', more, hsections, hlanes⟩ := exists_final hids h hreached
  obtain ⟨s', earlier, rfl⟩ := List.exists_cons_of_length_eq_add_one hlength
  simp only [List.length_cons, Nat.add_right_cancel_iff] at hlength
  have hs' : s' = s := by
    rw [hsections] at hs
    simpa [hlength] using hs
  have ht' : t' = t := by
    rw [hsections] at ht
    simpa [hlength] using ht
  subst hs' ht'
  obtain ⟨place, rfl, hlast⟩ := exists_place_before hopens.step hpreferred.symm
  refine ⟨hlanes ▸ hmem, ?_⟩
  have hleads := leads_of_walk ha hwalk hlast hopens.step
  exact hleads.succeeds_or_changes.resolve_right (hopens.not_changes ha hwalk hids hlast)

/-- The sections of a walk are linked: each one but the first is opened somewhere, by one of its
lanes that is a successor of the lane that the section before prefers. No lane change opens a
section, whatever the lateral references are. -/
theorem sections_linked (ha : net.Accepted) (hwalk : net.graph.Walk start stop path cost)
    (h : ofPath net path = .ok sections) :
    (∀ index s t, sections[index]? = some s → sections[index + 1]? = some t →
      (∃ place first, Opens net path place (index + 1) first) ∧
      ∀ place first, Opens net path place (index + 1) first →
        first ∈ t.primitives ∧ net.Succeeds s.preferred first) ∧
    ∀ place last next, path[place]? = some last → net.Changes last next →
      ∀ index, ¬ Opens net path (place + 1) index next := by
  obtain ⟨onRoute, hids, -⟩ := Fallible.bind_eq_ok.1 h
  constructor
  · intro index s t hs ht
    constructor
    · obtain ⟨hlt, -⟩ := List.getElem?_eq_some_iff.1 ht
      exact exists_opens hids (Nat.le_refl _) (sectionsAfter_length hids h) (by simpa using hlt)
    · intro place first hopens
      exact hopens.linked ha hwalk hids h hs ht
  · intro place last next hlast hchanges index hopens
    exact hopens.not_changes ha hwalk hids hlast hchanges

end Walks

/-- From the right lane of the ring to the left one and on, in two sections. -/
theorem ring_linked : ∃ cost, ringNetwork.Accepted ∧
    ringNetwork.graph.Walk 2 3 [2, 1, 3] cost ∧
    ofPath ringNetwork [2, 1, 3] = .ok [⟨1, [1, 2]⟩, ⟨3, [3]⟩] ∧
    ∃ place first, Opens ringNetwork [2, 1, 3] place 1 first ∧ first ∈ [3] ∧
      ringNetwork.Succeeds 1 first := by
  have hchange : ringNetwork.Leads 2 1 := by decide +kernel
  have hahead : ringNetwork.Leads 1 3 := by decide +kernel
  have hstart : 2 ∈ ringNetwork.graph.nodes := by decide +kernel
  obtain ⟨_, hleft⟩ := (RoutingGraph.Walk.here hstart).exists_onward
    ((joins_graph accepted_ring).2 hchange)
  obtain ⟨cost, hwalk⟩ := hleft.exists_onward ((joins_graph accepted_ring).2 hahead)
  have hpath : ofPath ringNetwork [2, 1, 3] = .ok [⟨1, [1, 2]⟩, ⟨3, [3]⟩] :=
    Fallible.ok_of_toOption (by decide +kernel)
  obtain ⟨⟨place, first, hopens⟩, hlinked⟩ :=
    (sections_linked accepted_ring hwalk hpath).1 0 ⟨1, [1, 2]⟩ ⟨3, [3]⟩ rfl rfl
  obtain ⟨hmem, hsucceeds⟩ := hlinked place first hopens
  exact ⟨cost, accepted_ring, hwalk, hpath, place, first, hopens, hmem, hsucceeds⟩

end LaneRoute.RouteSections
