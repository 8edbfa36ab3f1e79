import LaneRoute.Proofs.Route.Grouping

/-!
# Lane changes

When a path can be folded into sections, whatever the lateral references are. The path falls
into maximal runs of lane changes, each to a lateral neighbor of the lane before. A run stays in
the section that its first lane opened, which holds the neighbors of that lane only; a change
that leads past these is what breaks the fold off.
-/

set_option autoImplicit false

namespace LaneRoute.RouteSections

open RoadNetwork

variable {α : Type} {net : RoadNetwork α} {onRoute path run : List Int}

/-- The maximal runs of ids that are lateral neighbors of the ones before. -/
def changes (net : RoadNetwork α) (ids : List Int) : List (List Int) :=
  ids.splitBy fun a b => decide (b ∈ net.lanes a)

/-- No change leads past the lateral neighbors of the first lane. -/
def Close (net : RoadNetwork α) (run : List Int) : Prop :=
  ∀ first ∈ run.head?, ∀ id ∈ run, id ∈ net.lanes first

instance (net : RoadNetwork α) (run : List Int) : Decidable (Close net run) :=
  match run with
  | [] => isTrue (by simp [Close])
  | first :: rest => decidable_of_iff (∀ id ∈ first :: rest, id ∈ net.lanes first) (by simp [Close])

/-! ## Runs of changes -/

/-- A fold broke off at a lane that is not among those of its section. -/
def Misses (result : Except Fault (List RouteSection)) : Prop :=
  ∃ id primitives, id ∉ primitives ∧ result = .error (.notAMember id primitives)

theorem foldlM_changes (onRoute : List Int) (before : List RouteSection) {s : RouteSection}
    (hchain : (s.preferred :: run).IsChain fun a b => b ∈ net.lanes a)
    (hroads : ∀ id ∈ s.preferred :: run, net.isRoad id = true) :
    ((∀ id ∈ run, id ∈ s.primitives) → run.foldlM (fold net onRoute) (s :: before)
      = .ok (⟨run.getLastD s.preferred, s.primitives⟩ :: before)) ∧
    ((¬ ∀ id ∈ run, id ∈ s.primitives) → Misses (run.foldlM (fold net onRoute) (s :: before))) := by
  induction run generalizing s with
  | nil => exact ⟨fun _ => rfl, fun h => absurd (by simp) h⟩
  | cons id run ih =>
    obtain ⟨hlane, htail⟩ := List.isChain_cons_cons.1 hchain
    rw [List.foldlM_cons, fold_change (hroads _ (by simp)) hlane]
    by_cases hmem : id ∈ s.primitives
    · rw [if_pos hmem]
      obtain ⟨hok, hfault⟩ := ih (s := ⟨id, s.primitives⟩) htail
        fun i hi => hroads i (List.mem_cons_of_mem s.preferred hi)
      constructor
      · intro h
        rw [List.getLastD_cons]
        exact hok fun i hi => h i (by simp [hi])
      · intro h
        apply hfault
        intro hrest
        exact h (List.forall_mem_cons.2 ⟨hmem, hrest⟩)
    · rw [if_neg hmem]
      constructor
      · intro h
        exact absurd (h id (by simp)) hmem
      · intro _
        exact ⟨id, s.primitives, hmem, rfl⟩

/-- The first lane of a run opens a section and the others change lanes in it. -/
theorem foldlM_run {sections : List RouteSection} (hne : run ≠ [])
    (hchain : run.IsChain fun a b => b ∈ net.lanes a) (hroads : ∀ id ∈ run, net.isRoad id = true)
    (honRoute : ∀ id ∈ run, id ∈ onRoute)
    (hlast : ∀ s ∈ sections.head?, net.isRoad s.preferred = true ∧
      ∀ first ∈ run.head?, first ∉ net.lanes s.preferred) :
    (Close net run → ∃ s, sectionOf? net onRoute run = some s ∧ run.getLast? = some s.preferred ∧
      run.foldlM (fold net onRoute) sections = .ok (s :: sections)) ∧
    (¬ Close net run → Misses (run.foldlM (fold net onRoute) sections)) := by
  cases run with
  | nil => exact absurd rfl hne
  | cons first rest =>
    have hopen := fold_apart (hroads first (by simp)) (honRoute first (by simp)) fun s hs =>
      ⟨(hlast s hs).1, (hlast s hs).2 first rfl⟩
    obtain ⟨hok, hfault⟩ := foldlM_changes onRoute sections
      (s := ⟨first, (net.lanes first).filter (· ∈ onRoute)⟩) hchain hroads
    have hclose : Close net (first :: rest) ↔
        ∀ id ∈ rest, id ∈ (net.lanes first).filter (· ∈ onRoute) := by
      have hself := self_mem_lanes (hroads first (by simp))
      have hrest : ∀ id ∈ rest, id ∈ onRoute := fun id hid => honRoute id (by simp [hid])
      simp only [Close, List.head?_cons, Option.mem_def, Option.some.injEq, forall_eq',
        List.forall_mem_cons, List.mem_filter, decide_eq_true_eq]
      exact ⟨fun h id hid => ⟨h.2 id hid, hrest id hid⟩, fun h => ⟨hself, fun id hid => (h id hid).1⟩⟩
    rw [List.foldlM_cons, hopen, hclose]
    constructor
    · intro h
      refine ⟨_, rfl, ?_, hok h⟩
      rw [List.getLast?_cons, List.getLastD_eq_getLast?]
    · exact hfault

theorem foldlM_close {rs : List (List Int)} {sections : List RouteSection}
    (hruns : ∀ run ∈ rs, run ≠ [] ∧ run.IsChain (fun a b => b ∈ net.lanes a) ∧
      ∀ id ∈ run, net.isRoad id = true ∧ id ∈ onRoute)
    (hchain : rs.IsChain fun r s => ∀ a ∈ r.getLast?, ∀ b ∈ s.head?, b ∉ net.lanes a)
    (hlast : ∀ s ∈ sections.head?, net.isRoad s.preferred = true ∧
      ∀ run ∈ rs.head?, ∀ first ∈ run.head?, first ∉ net.lanes s.preferred) :
    ((∀ run ∈ rs, Close net run) → rs.flatten.foldlM (fold net onRoute) sections
      = .ok ((rs.filterMap (sectionOf? net onRoute)).reverse ++ sections)) ∧
    ((¬ ∀ run ∈ rs, Close net run) →
      Misses (rs.flatten.foldlM (fold net onRoute) sections)) := by
  induction rs generalizing sections with
  | nil => exact ⟨fun _ => rfl, fun h => absurd (by simp) h⟩
  | cons run rs ih =>
    obtain ⟨hne, hlanes, hids⟩ := hruns run (by simp)
    obtain ⟨hok, hfault⟩ := foldlM_run hne hlanes (fun id hid => (hids id hid).1)
      (fun id hid => (hids id hid).2) fun s hs => ⟨(hlast s hs).1, (hlast s hs).2 run rfl⟩
    rw [List.flatten_cons, List.foldlM_append, List.forall_mem_cons]
    by_cases hclose : Close net run
    · obtain ⟨s, hs, hpreferred, hrun⟩ := hok hclose
      have hmem := List.mem_of_getLast? hpreferred
      have hnext : ∀ t ∈ (s :: sections).head?, net.isRoad t.preferred = true ∧
          ∀ r ∈ rs.head?, ∀ first ∈ r.head?, first ∉ net.lanes t.preferred := by
        intro t ht
        obtain rfl := Option.some.inj ht
        exact ⟨(hids _ hmem).1, fun r hr => hchain.rel_head? hr _ hpreferred⟩
      obtain ⟨hrest, hbreak⟩ := ih (fun r hr => hruns r (by simp [hr])) hchain.tail hnext
      rw [hrun]
      constructor
      · intro h
        rw [List.filterMap_cons_some hs]
        simpa [bind, Except.bind] using hrest h.2
      · intro h
        exact hbreak fun hall => h ⟨hclose, hall⟩
    · constructor
      · intro h
        exact absurd h.1 hclose
      · intro _
        obtain ⟨id, primitives, hmem, hrun⟩ := hfault hclose
        exact ⟨id, primitives, hmem, by rw [hrun]; rfl⟩

/-! ## Paths -/

theorem mem_of_mem_changes {id : Int} (h : run ∈ changes net path) (hid : id ∈ run) : id ∈ path := by
  have hflat : id ∈ (changes net path).flatten := List.mem_flatten.2 ⟨run, h, hid⟩
  rwa [changes, List.flatten_splitBy] at hflat

theorem isChain_of_mem_changes (h : run ∈ changes net path) :
    run.IsChain fun a b => b ∈ net.lanes a :=
  (List.isChain_of_mem_splitBy h).imp fun _ _ => of_decide_eq_true

theorem isChain_changes (net : RoadNetwork α) (path : List Int) :
    (changes net path).IsChain fun r s => ∀ a ∈ r.getLast?, ∀ b ∈ s.head?, b ∉ net.lanes a := by
  apply (List.isChain_getLast_head_splitBy (fun a b => decide (b ∈ net.lanes a)) path).imp
  rintro r s ⟨hr, hs, hseam⟩ a ha b hb
  rw [List.getLast?_eq_some_getLast hr] at ha
  rw [List.head?_eq_some_head hs] at hb
  obtain rfl := Option.some.inj ha
  obtain rfl := Option.some.inj hb
  exact of_decide_eq_false hseam

/-- A path of roads is folded into sections when its runs of changes are close, one for each
run, and only then. -/
theorem ofPath_of_close (hroads : ∀ id ∈ path, net.isRoad id = true) :
    ((∀ run ∈ changes net (withoutRepeats path), Close net run) → ∃ onRoute,
      ofPath net path
        = .ok ((changes net (withoutRepeats path)).filterMap (sectionOf? net onRoute))) ∧
    ((¬ ∀ run ∈ changes net (withoutRepeats path), Close net run) → Misses (ofPath net path)) := by
  have hids : ∀ id ∈ withoutRepeats path, net.isRoad id = true :=
    fun id hid => hroads id (mem_withoutRepeats.1 hid)
  obtain ⟨onRoute, honRoute, hmem⟩ := exists_routeIds hids
  have hruns : ∀ run ∈ changes net (withoutRepeats path), run ≠ [] ∧
      run.IsChain (fun a b => b ∈ net.lanes a) ∧
      ∀ id ∈ run, net.isRoad id = true ∧ id ∈ onRoute := by
    intro run hrun
    refine ⟨List.ne_nil_of_mem_splitBy hrun, isChain_of_mem_changes hrun, fun id hid => ?_⟩
    have hpath := mem_of_mem_changes hrun hid
    exact ⟨hids id hpath, (hmem id).2 (Or.inl hpath)⟩
  have hempty : ∀ s ∈ ([] : List RouteSection).head?, net.isRoad s.preferred = true ∧
      ∀ run ∈ (changes net (withoutRepeats path)).head?, ∀ first ∈ run.head?,
        first ∉ net.lanes s.preferred := by simp
  obtain ⟨hok, hfault⟩ := foldlM_close hruns (isChain_changes net _) hempty
  have hflat : (changes net (withoutRepeats path)).flatten = withoutRepeats path :=
    List.flatten_splitBy _ _
  rw [hflat] at hok hfault
  have hpath : ofPath net path = ((withoutRepeats path).foldlM (fold net onRoute) []).map
      List.reverse := by
    rw [ofPath, honRoute]
    show ((withoutRepeats path).foldlM (fold net onRoute) [] >>= fun found => pure found.reverse) = _
    cases (withoutRepeats path).foldlM (fold net onRoute) [] <;> rfl
  rw [hpath]
  constructor
  · intro h
    exact ⟨onRoute, by rw [hok h, Except.map, List.append_nil, List.reverse_reverse]⟩
  · intro h
    obtain ⟨id, primitives, hmem, hfold⟩ := hfault h
    exact ⟨id, primitives, hmem, by rw [hfold]; rfl⟩

theorem close_of_mutual [Scalar α] (hn : net.Accepted) (hm : net.Mutual)
    (hroads : ∀ id ∈ path, net.isRoad id = true) : ∀ run ∈ changes net path, Close net run := by
  intro run hrun first hfirst id hid
  have hmem : ∀ id ∈ run, net.isRoad id = true :=
    fun id hid => hroads id (mem_of_mem_changes hrun hid)
  have habreast : run.IsChain net.Abreast := by
    apply (isChain_of_mem_changes hrun).imp_of_mem_imp
    intro a b ha hb hlane
    exact (abreast_iff hn hm (hmem a ha) (hmem b hb)).2 hlane
  have hfirst := List.mem_of_head? hfirst
  have hpairs := (List.isChain_iff_pairwise.1 habreast).forall_of_forall
    (fun _ _ _ => Iff.rfl) hfirst hid
  exact (abreast_iff hn hm (hmem first hfirst) (hmem id hid)).1 hpairs

end LaneRoute.RouteSections
