import LaneRoute.Proofs.Network.Groups
import LaneRoute.Proofs.Route.Runs
import Mathlib.Data.List.SplitBy

/-!
# Grouping

What folding a path into sections comes to where lateral references are mutual: the path falls
into maximal runs of lanes that are abreast, and each run makes a section. The fold looks at the
last section only, but the lane that this section prefers stands for its whole group.
-/

set_option autoImplicit false

namespace LaneRoute.RouteSections

open RoadNetwork

variable {α : Type} {net : RoadNetwork α} {onRoute path run : List Int}

/-- The maximal runs of ids with the same lateral neighbors. -/
def runs (net : RoadNetwork α) (ids : List Int) : List (List Int) :=
  ids.splitBy fun a b => decide (net.Abreast a b)

/-- The lanes of the route beside the first id of a run, of which the last id is preferred. -/
def sectionOf? (net : RoadNetwork α) (onRoute : List Int) : List Int → Option RouteSection
  | [] => none
  | first :: rest => some ⟨rest.getLastD first, (net.lanes first).filter (· ∈ onRoute)⟩

theorem sectionOf?_congr {ids : List Int} (h : ∀ id, id ∈ ids ↔ id ∈ onRoute) :
    sectionOf? net ids = sectionOf? net onRoute := by
  funext run
  cases run with
  | nil => rfl
  | cons first rest => simp only [sectionOf?, h]

def grouped (net : RoadNetwork α) (path : List Int) : Except Fault (List RouteSection) := do
  let ids ← routeIds net path
  return (runs net (withoutRepeats path)).filterMap (sectionOf? net ids)

/-! ## Ids of a route -/

theorem mem_withoutRepeats {ids : List Int} {id : Int} : id ∈ withoutRepeats ids ↔ id ∈ ids := by
  fun_induction withoutRepeats ids with
  | case1 a rest ih => simp [ih]
  | case2 a b rest _ ih => simp [ih]
  | case3 => rfl

theorem exists_routeIds (h : ∀ id ∈ path, net.isRoad id = true) :
    ∃ ids, routeIds net path = .ok ids ∧ ∀ lane, lane ∈ ids ↔
      lane ∈ path ∨ ∃ id ∈ path, ∃ s, net.segment? id = some s ∧ lane ∈ net.changeTargets s := by
  have hmap : ∃ targets, path.mapM net.laneChangeNeighbors = .ok targets ∧
      ∀ lane, lane ∈ targets.flatten ↔
        ∃ id ∈ path, ∃ s, net.segment? id = some s ∧ lane ∈ net.changeTargets s := by
    induction path with
    | nil => exact ⟨[], rfl, by simp⟩
    | cons id path ih =>
      obtain ⟨targets, htargets, hmem⟩ := ih fun i hi => h i (by simp [hi])
      obtain ⟨s, hs, -⟩ := exists_segment (h id (by simp))
      have hfirst : net.laneChangeNeighbors id = .ok (net.changeTargets s) := by
        simp [laneChangeNeighbors, RoadNetwork.segment, hs, Except.map]
      refine ⟨net.changeTargets s :: targets, ?_, ?_⟩
      · rw [List.mapM_cons, hfirst]
        exact Fallible.bind_eq_ok.2 ⟨_, rfl, Fallible.bind_eq_ok.2 ⟨targets, htargets, rfl⟩⟩
      · intro lane
        simp [hmem, hs]
  obtain ⟨targets, htargets, hmem⟩ := hmap
  refine ⟨path ++ targets.flatten, ?_, ?_⟩
  · exact Fallible.bind_eq_ok.2 ⟨targets, htargets, rfl⟩
  · intro lane
    rw [List.mem_append, hmem]

/-! ## Runs -/

theorem mem_of_mem_runs {id : Int} (h : run ∈ runs net path) (hid : id ∈ run) : id ∈ path := by
  have hflat : id ∈ (runs net path).flatten := List.mem_flatten.2 ⟨run, h, hid⟩
  rwa [runs, List.flatten_splitBy] at hflat

theorem abreast_of_mem_runs {a b : Int} (h : run ∈ runs net path) (ha : a ∈ run) (hb : b ∈ run) :
    net.Abreast a b := by
  have hchain : run.IsChain net.Abreast :=
    (List.isChain_of_mem_splitBy h).imp fun a b => of_decide_eq_true
  have hpairs := List.isChain_iff_pairwise.1 hchain
  exact hpairs.forall_of_forall (fun _ _ _ => Iff.rfl) ha hb

structure IsRun (net : RoadNetwork α) (onRoute run : List Int) : Prop where
  ne_nil : run ≠ []
  roads : ∀ id ∈ run, net.isRoad id = true
  onRoute : ∀ id ∈ run, id ∈ onRoute
  abreast : ∀ a ∈ run, ∀ b ∈ run, net.Abreast a b

theorem isRoad_of_mem_runs (h : ∀ id ∈ path, net.isRoad id = true) (hrun : run ∈ runs net path) :
    ∀ id ∈ run, net.isRoad id = true := by
  intro id hid
  exact h id (mem_of_mem_runs hrun hid)

theorem isRun_of_mem_runs (hroads : ∀ id ∈ path, net.isRoad id = true)
    (honRoute : ∀ id ∈ path, id ∈ onRoute) (h : run ∈ runs net path) :
    IsRun net onRoute run where
  ne_nil := List.ne_nil_of_mem_splitBy h
  roads := isRoad_of_mem_runs hroads h
  onRoute id hid := honRoute id (mem_of_mem_runs h hid)
  abreast _ ha _ hb := abreast_of_mem_runs h ha hb

theorem isChain_runs (net : RoadNetwork α) (path : List Int) :
    (runs net path).IsChain fun r s => ∀ a ∈ r, ∀ b ∈ s, ¬ net.Abreast a b := by
  have hseams := List.isChain_getLast_head_splitBy (fun a b => decide (net.Abreast a b)) path
  apply hseams.imp_of_mem_imp
  rintro r s hr hs ⟨hr', hs', hseam⟩ a ha b hb h
  have hlast := abreast_of_mem_runs hr (List.getLast_mem hr') ha
  have hfirst := abreast_of_mem_runs hs hb (List.head_mem hs')
  exact of_decide_eq_false hseam ((hlast.trans h).trans hfirst)

/-! ## One more segment -/

theorem fold_change {s : RouteSection} {before : List RouteSection} {id : Int}
    (hroad : net.isRoad s.preferred = true) (hlane : id ∈ net.lanes s.preferred) :
    fold net onRoute (s :: before) id = if id ∈ s.primitives then .ok (⟨id, s.primitives⟩ :: before)
      else .error (.notAMember id s.primitives) := by
  by_cases hmem : id ∈ s.primitives
  · simp [fold, lateralNeighbors_eq_ok hroad, RouteSection.make, hlane, hmem, bind, Except.bind,
      pure, Except.pure]
  · simp [fold, lateralNeighbors_eq_ok hroad, RouteSection.make, hlane, hmem, bind, Except.bind]

theorem fold_apart {sections : List RouteSection} {id : Int} (hid : net.isRoad id = true)
    (hmem : id ∈ onRoute) (hlast : ∀ s ∈ sections.head?, net.isRoad s.preferred = true ∧
      id ∉ net.lanes s.preferred) :
    fold net onRoute sections id
      = .ok (⟨id, (net.lanes id).filter (· ∈ onRoute)⟩ :: sections) := by
  have hself := self_mem_lanes hid
  cases sections with
  | nil => simp [fold, lateralNeighbors_eq_ok hid, RouteSection.make, hself, hmem, bind,
      Except.bind, pure, Except.pure]
  | cons s before =>
    obtain ⟨hroad, hlane⟩ := hlast s rfl
    simp [fold, lateralNeighbors_eq_ok hid, lateralNeighbors_eq_ok hroad, RouteSection.make,
      hlane, hself, hmem, bind, Except.bind, pure, Except.pure]

/-! ## Folding runs -/

section Mutual

variable [Scalar α] (hn : net.Accepted) (hm : net.Mutual)

include hn hm in
theorem fold_stay {s : RouteSection} {before : List RouteSection} {id : Int}
    (hlast : net.isRoad s.preferred = true) (hid : net.isRoad id = true)
    (habreast : net.Abreast s.preferred id) (hmem : id ∈ s.primitives) :
    fold net onRoute (s :: before) id = .ok (⟨id, s.primitives⟩ :: before) := by
  have hlane := (abreast_iff hn hm hlast hid).1 habreast
  rw [fold_change hlast hlane, if_pos hmem]

include hn hm in
theorem fold_open {sections : List RouteSection} {id : Int} (hid : net.isRoad id = true)
    (hmem : id ∈ onRoute) (hlast : ∀ s ∈ sections.head?, net.isRoad s.preferred = true ∧
      ¬ net.Abreast s.preferred id) :
    fold net onRoute sections id
      = .ok (⟨id, (net.lanes id).filter (· ∈ onRoute)⟩ :: sections) := by
  apply fold_apart hid hmem
  intro s hs
  obtain ⟨hroad, habreast⟩ := hlast s hs
  exact ⟨hroad, fun hlane => habreast ((abreast_iff hn hm hroad hid).2 hlane)⟩

include hn hm in
theorem foldlM_stay {s : RouteSection} {before : List RouteSection}
    (hlast : net.isRoad s.preferred = true)
    (h : ∀ id ∈ run, net.isRoad id = true ∧ net.Abreast s.preferred id ∧ id ∈ s.primitives) :
    run.foldlM (fold net onRoute) (s :: before)
      = .ok (⟨run.getLastD s.preferred, s.primitives⟩ :: before) := by
  induction run generalizing s with
  | nil => rfl
  | cons id run ih =>
    obtain ⟨hid, habreast, hmem⟩ := h id (by simp)
    have hrest : ∀ i ∈ run, net.isRoad i = true ∧ net.Abreast id i ∧ i ∈ s.primitives := by
      intro i hi
      obtain ⟨hroad, hi', hmem'⟩ := h i (by simp [hi])
      exact ⟨hroad, habreast.symm.trans hi', hmem'⟩
    rw [List.foldlM_cons, fold_stay hn hm hlast hid habreast hmem]
    have hrun := ih (s := ⟨id, s.primitives⟩) hid hrest
    rw [List.getLastD_cons]
    exact hrun

include hn hm in
theorem IsRun.foldlM {sections : List RouteSection} (h : IsRun net onRoute run)
    (hlast : ∀ s ∈ sections.head?, net.isRoad s.preferred = true ∧
      ∀ id ∈ run, ¬ net.Abreast s.preferred id) :
    ∃ s, sectionOf? net onRoute run = some s ∧ Carries net onRoute run s ∧
      run.foldlM (fold net onRoute) sections = .ok (s :: sections) := by
  cases run with
  | nil => exact absurd rfl h.ne_nil
  | cons first rest =>
    have hroad := h.roads first (by simp)
    have hmem : ∀ id ∈ first :: rest, id ∈ (net.lanes first).filter (· ∈ onRoute) := by
      intro id hid
      have hlane := (abreast_iff hn hm hroad (h.roads id hid)).1 (h.abreast first (by simp) id hid)
      exact List.mem_filter.2 ⟨hlane, by simpa using h.onRoute id hid⟩
    refine ⟨_, rfl, ?_, ?_⟩
    · refine ⟨⟨first, rfl, _, lateralNeighbors_eq_ok hroad, rfl⟩, ?_, hmem⟩
      rw [List.getLast?_cons, List.getLastD_eq_getLast?]
    · have hopen := fold_open hn hm hroad (h.onRoute first (by simp)) fun s hs =>
        ⟨(hlast s hs).1, (hlast s hs).2 first (by simp)⟩
      rw [List.foldlM_cons, hopen]
      apply foldlM_stay hn hm (s := ⟨first, _⟩) hroad
      intro id hid
      have hid' := List.mem_cons_of_mem first hid
      exact ⟨h.roads id hid', h.abreast first (by simp) id hid', hmem id hid'⟩

include hn hm in
theorem foldlM_runs {rs : List (List Int)} {sections : List RouteSection}
    (hruns : ∀ run ∈ rs, IsRun net onRoute run)
    (hchain : rs.IsChain fun r s => ∀ a ∈ r, ∀ b ∈ s, ¬ net.Abreast a b)
    (hlast : ∀ s ∈ sections.head?, net.isRoad s.preferred = true ∧
      ∀ run ∈ rs.head?, ∀ id ∈ run, ¬ net.Abreast s.preferred id) :
    List.Forall₂ (Carries net onRoute) rs (rs.filterMap (sectionOf? net onRoute)) ∧
      rs.flatten.foldlM (fold net onRoute) sections
        = .ok ((rs.filterMap (sectionOf? net onRoute)).reverse ++ sections) := by
  induction rs generalizing sections with
  | nil => exact ⟨.nil, rfl⟩
  | cons run rs ih =>
    have hrun := hruns run (by simp)
    obtain ⟨s, hs, hcarries, hfold⟩ := hrun.foldlM hn hm fun s hs =>
      ⟨(hlast s hs).1, (hlast s hs).2 run rfl⟩
    -- the preferred lane is in the run, so the next run is not abreast of it
    have hmem : s.preferred ∈ run := List.mem_of_getLast? hcarries.last
    have hnext : ∀ t ∈ (s :: sections).head?, net.isRoad t.preferred = true ∧
        ∀ r ∈ rs.head?, ∀ id ∈ r, ¬ net.Abreast t.preferred id := by
      intro t ht
      obtain rfl := Option.some.inj ht
      exact ⟨hrun.roads _ hmem, fun r hr id hid => hchain.rel_head? hr _ hmem id hid⟩
    obtain ⟨hcarry, hrest⟩ := ih (fun r hr => hruns r (by simp [hr])) hchain.tail hnext
    rw [List.filterMap_cons_some hs, List.flatten_cons, List.foldlM_append, hfold]
    constructor
    · exact .cons hcarries hcarry
    · simpa [bind, Except.bind] using hrest

include hn hm in
theorem exists_grouped (h : ∀ id ∈ path, net.isRoad id = true) :
    ∃ onRoute sections, grouped net path = .ok sections ∧ ofPath net path = .ok sections ∧
      List.Forall₂ (Carries net onRoute) (runs net (withoutRepeats path)) sections := by
  have hroads : ∀ id ∈ withoutRepeats path, net.isRoad id = true :=
    fun id hid => h id (mem_withoutRepeats.1 hid)
  obtain ⟨ids, hids, hmem⟩ := exists_routeIds h
  obtain ⟨onRoute, honRoute, hmem'⟩ := exists_routeIds hroads
  have hsame : sectionOf? net ids = sectionOf? net onRoute := by
    apply sectionOf?_congr
    intro id
    simp [hmem, hmem', mem_withoutRepeats]
  have hruns : ∀ run ∈ runs net (withoutRepeats path), IsRun net onRoute run :=
    fun run hrun => isRun_of_mem_runs hroads (fun id hid => (hmem' id).2 (Or.inl hid)) hrun
  have hempty : ∀ s ∈ ([] : List RouteSection).head?, net.isRoad s.preferred = true ∧
      ∀ run ∈ (runs net (withoutRepeats path)).head?, ∀ id ∈ run,
        ¬ net.Abreast s.preferred id := by simp
  obtain ⟨hcarries, hfold⟩ := foldlM_runs hn hm hruns (isChain_runs net _) hempty
  refine ⟨onRoute, _, ?_, ?_, hcarries⟩
  · exact Fallible.bind_eq_ok.2 ⟨ids, hids, by rw [hsame]; rfl⟩
  · rw [runs, List.flatten_splitBy] at hfold
    refine Fallible.bind_eq_ok.2 ⟨onRoute, honRoute, Fallible.bind_eq_ok.2 ⟨_, hfold, ?_⟩⟩
    simp [runs, pure, Except.pure]

end Mutual

/-! ## Lanes of sections -/

theorem Carries.mem_primitives {s : RouteSection} (h : Carries net onRoute run s)
    (hrun : ∀ id ∈ run, net.isRoad id = true) :
    ∃ first ∈ run, ∀ lane, lane ∈ s.primitives ↔ lane ∈ net.lanes first ∧ lane ∈ onRoute := by
  obtain ⟨first, hfirst, lanes, hlanes, hs⟩ := h.opened
  have hmem := List.mem_of_head? hfirst
  rw [lateralNeighbors_eq_ok (hrun first hmem)] at hlanes
  obtain rfl := Except.ok.inj hlanes
  refine ⟨first, hmem, fun lane => ?_⟩
  simp [hs]

theorem isChain_of_forall₂ {β γ : Type} {R : β → γ → Prop} {P : β → β → Prop} {Q : γ → γ → Prop}
    {bs : List β} {cs : List γ} (h : List.Forall₂ R bs cs) (hchain : bs.IsChain P)
    (hstep : ∀ b c b' c', R b c → R b' c' → P b b' → Q c c') : cs.IsChain Q := by
  induction h with
  | nil => exact .nil
  | cons hr hrest ih =>
    have hcs := ih hchain.tail
    cases hrest with
    | nil => exact .singleton _
    | cons hr' _ =>
      obtain ⟨hp, -⟩ := List.isChain_cons_cons.1 hchain
      exact List.isChain_cons_cons.2 ⟨hstep _ _ _ _ hr hr' hp, hcs⟩

section Mutual

variable [Scalar α] (hn : net.Accepted) (hm : net.Mutual)

include hn hm in
theorem Carries.abreast {other : List Int} {s t : RouteSection} {lane : Int}
    (hs : Carries net onRoute run s) (ht : Carries net onRoute other t)
    (hrun : ∀ id ∈ run, net.isRoad id = true) (hother : ∀ id ∈ other, net.isRoad id = true)
    (hlane : lane ∈ s.primitives) (hlane' : lane ∈ t.primitives) :
    ∃ a ∈ run, ∃ b ∈ other, net.Abreast a b := by
  obtain ⟨a, ha, hmem⟩ := hs.mem_primitives hrun
  obtain ⟨b, hb, hmem'⟩ := ht.mem_primitives hother
  exact ⟨a, ha, b, hb, abreast_of_mem_lanes hn hm (hrun a ha) (hother b hb)
    ((hmem lane).1 hlane).1 ((hmem' lane).1 hlane').1⟩

include hn hm in
theorem isChain_disjoint {sections : List RouteSection} (h : ∀ id ∈ path, net.isRoad id = true)
    (hcarries : List.Forall₂ (Carries net onRoute) (runs net path) sections) :
    sections.IsChain fun s t => s.primitives.Disjoint t.primitives := by
  have hchain : (runs net path).IsChain fun r s => (∀ id ∈ r, net.isRoad id = true) ∧
      (∀ id ∈ s, net.isRoad id = true) ∧ ∀ a ∈ r, ∀ b ∈ s, ¬ net.Abreast a b := by
    apply (isChain_runs net path).imp_of_mem_imp
    intro r s hr hs hapart
    exact ⟨isRoad_of_mem_runs h hr, isRoad_of_mem_runs h hs, hapart⟩
  apply isChain_of_forall₂ hcarries hchain
  rintro r s r' s' hs hs' ⟨hr, hr', hapart⟩ lane hlane hlane'
  obtain ⟨a, ha, b, hb, habreast⟩ := hs.abreast hn hm hs' hr hr' hlane hlane'
  exact hapart a ha b hb habreast

include hn hm in
/-- Folding a path of roads gives its groups, in which every lane of the path is found and of
which no two that follow each other have a lane in common. -/
theorem ofPath_eq_grouped (h : ∀ id ∈ path, net.isRoad id = true) :
    ofPath net path = grouped net path ∧ ∃ sections, ofPath net path = .ok sections ∧
      List.Forall₂ (fun run s => ∀ id ∈ run, id ∈ s.primitives) (runs net (withoutRepeats path))
        sections ∧
      sections.IsChain fun s t => s.primitives.Disjoint t.primitives := by
  obtain ⟨onRoute, sections, hgrouped, hsections, hcarries⟩ := exists_grouped hn hm h
  refine ⟨hsections.trans hgrouped.symm, sections, hsections, ?_, ?_⟩
  · exact hcarries.imp fun _ _ hcarry => hcarry.lanes
  · exact isChain_disjoint hn hm (fun id hid => h id (mem_withoutRepeats.1 hid)) hcarries

end Mutual

/-- A lane change at the ring stays in one section. -/
theorem ring_grouped : ringNetwork.Accepted ∧ ringNetwork.Mutual ∧
    (∀ id ∈ [2, 2, 1, 3], ringNetwork.isRoad id = true) ∧
    grouped ringNetwork [2, 2, 1, 3] = .ok [⟨1, [1, 2]⟩, ⟨3, [3]⟩] := by
  have hroads : ∀ id ∈ [2, 2, 1, 3], ringNetwork.isRoad id = true := by decide +kernel
  have hpath : ofPath ringNetwork [2, 2, 1, 3] = .ok [⟨1, [1, 2]⟩, ⟨3, [3]⟩] :=
    Fallible.ok_of_toOption (by decide +kernel)
  obtain ⟨heq, -⟩ := ofPath_eq_grouped accepted_ring mutual_ring hroads
  exact ⟨accepted_ring, mutual_ring, hroads, heq.symm.trans hpath⟩

end LaneRoute.RouteSections
