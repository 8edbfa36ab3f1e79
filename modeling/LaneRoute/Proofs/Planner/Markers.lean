import LaneRoute.Proofs.Planner.Answers

/-!
# Markers of planned routes

What is shown of a route that was planned. A section holds some of the lanes beside the segment
that opened it, and none of these is listed twice; lane changes move the preferred lane only. So
each section shows its preferred lane once, and all of its lanes but one as the others.
-/

set_option autoImplicit false

namespace LaneRoute

variable {α : Type}

/-! ## One section -/

namespace RouteSection

def Single (s : RouteSection) : Prop := s.primitives.count s.preferred = 1

namespace Single

variable {s : RouteSection}

theorem filter_preferred (h : s.Single) :
    s.primitives.filter (· = s.preferred) = [s.preferred] := by
  have hcopies : s.primitives.filter (· = s.preferred) =
      List.replicate (s.primitives.count s.preferred) s.preferred := List.filter_beq _
  rw [hcopies, h, List.replicate_one]

theorem exists_append (h : s.Single) : ∃ left right, s.primitives = left ++ s.preferred :: right ∧
    s.preferred ∉ left ∧ s.preferred ∉ right := by
  have hmem : s.preferred ∈ s.primitives := List.count_pos_iff.1 (by rw [h]; exact Nat.one_pos)
  obtain ⟨left, right, hsplit, hleft⟩ := List.eq_append_cons_of_mem hmem
  have hcount : (left ++ s.preferred :: right).count s.preferred = 1 := hsplit ▸ h
  rw [List.count_append, List.count_cons_self, List.count_eq_zero_of_not_mem hleft] at hcount
  exact ⟨left, right, hsplit, hleft, List.count_eq_zero.1 (by omega)⟩

theorem filter_others (h : s.Single) :
    s.primitives.filter (· ≠ s.preferred) = s.primitives.erase s.preferred := by
  obtain ⟨left, right, hsplit, hleft, hright⟩ := h.exists_append
  have hkeep : ∀ lanes : List Int, s.preferred ∉ lanes →
      lanes.filter (fun id => decide (id ≠ s.preferred)) = lanes := by
    intro lanes hlanes
    exact List.filter_eq_self.2 fun id hid => by simpa using ne_of_mem_of_not_mem hid hlanes
  rw [hsplit, List.erase_append_right _ hleft, List.erase_cons_head, List.filter_append,
    List.filter_cons, hkeep left hleft, hkeep right hright]
  simp

end Single

end RouteSection

namespace RouteSections

theorem Carries.isSingle {net : RoadNetwork α} {routeIds run : List Int} {s : RouteSection}
    (h : Carries net routeIds run s) : s.Single := by
  obtain ⟨first, -, lanes, hlanes, heq⟩ := h.opened
  have hnodup : s.primitives.Nodup := heq ▸ (RoadNetwork.nodup_lateralNeighbors hlanes).filter _
  exact List.count_eq_one_of_mem hnodup h.preferred_mem

theorem single_of_ofPath {net : RoadNetwork α} {path : List Int} {sections : List RouteSection}
    (h : ofPath net path = .ok sections) : ∀ s ∈ sections, s.Single := by
  intro s hs
  obtain ⟨ids, runs, -, hcarries⟩ := exists_runs h
  obtain ⟨run, -, hrun⟩ := exists_of_mem_forall₂ hcarries hs
  exact hrun.isSingle

end RouteSections

namespace Planner

/-! ## Sections together -/

section Sections

variable {sections : List RouteSection}

theorem flatMap_preferred (h : ∀ s ∈ sections, s.Single) :
    sections.flatMap (fun s => s.primitives.filter (· = s.preferred)) =
      sections.map (·.preferred) := by
  induction sections with
  | nil => rfl
  | cons s sections ih =>
    rw [List.flatMap_cons, List.map_cons, (h s (by simp)).filter_preferred,
      ih fun t ht => h t (by simp [ht])]
    rfl

theorem flatMap_others (h : ∀ s ∈ sections, s.Single) :
    sections.flatMap (fun s => s.primitives.filter (· ≠ s.preferred)) =
      sections.flatMap fun s => s.primitives.erase s.preferred :=
  List.flatMap_congr fun s hs => (h s hs).filter_others

theorem length_others (h : ∀ s ∈ sections, s.Single) :
    sections.length + (sections.flatMap fun s => s.primitives.erase s.preferred).length =
      (sections.flatMap (·.primitives)).length := by
  induction sections with
  | nil => rfl
  | cons s sections ih =>
    have hrest := ih fun t ht => h t (by simp [ht])
    obtain ⟨left, right, hsplit, hleft, -⟩ := (h s (by simp)).exists_append
    have hfirst : (s.primitives.erase s.preferred).length + 1 = s.primitives.length := by
      rw [hsplit, List.erase_append_right _ hleft, List.erase_cons_head]
      simp
      omega
    simp only [List.flatMap_cons, List.length_append, List.length_cons]
    omega

end Sections

variable [Planar α] {p q : Planner α} {checkpoints : List (Pose α)} {route : Route α}

theorem single_of_plan (h : (p.plan checkpoints).2.result = .ok route) :
    ∀ s ∈ route.sections, s.Single := by
  cases hm : p.loaded with
  | none => simp [plan, hm] at h
  | some m =>
    rcases plan_eq_ok hm h with ⟨-, path, target, hplanned⟩ | ⟨-, rfl⟩
    · exact RouteSections.single_of_ofPath hplanned.folded
    · simp [Route.empty]

/-- Of a planned route all lanes are shown, section by section. As preferred lanes those are shown
that the route follows, one for each section and in this order; the others are all lanes without
the preferred one of each section, which stands there once. -/
theorem visualize_planned (h : (p.plan checkpoints).2.result = .ok route) :
    ∃ shown, q.visualize (some route) = .ok shown ∧
      shown.preferred = route.preferredIds ∧
      shown.lanes = route.sections.flatMap (·.primitives) ∧
      (∀ s ∈ route.sections, s.primitives.count s.preferred = 1) ∧
      shown.others = route.sections.flatMap (fun s => s.primitives.erase s.preferred) ∧
      shown.preferred.length + shown.others.length = shown.lanes.length := by
  have hsingle := single_of_plan h
  have hpreferred : (q.markers route).preferred = route.preferredIds := flatMap_preferred hsingle
  have hothers : (q.markers route).others =
      route.sections.flatMap fun s => s.primitives.erase s.preferred := flatMap_others hsingle
  refine ⟨q.markers route, rfl, hpreferred, rfl, hsingle, hothers, ?_⟩
  rw [hpreferred, hothers, Route.preferredIds, List.length_map]
  exact length_others hsingle

/-- On the ring the start changes its lane, and the lane that it left is shown among the others. -/
theorem ring_shown : ∃ route shown,
    (ringPlanner.plan [⟨5, 2, 0, 0⟩, ⟨50, 6, 0, 0⟩]).2.result = .ok route ∧
    route.sections = [⟨1, [1, 2]⟩, ⟨3, [3]⟩] ∧ ringPlanner.visualize (some route) = .ok shown ∧
    shown.preferred = [1, 3] ∧ shown.lanes = [1, 2, 3] ∧ shown.others = [2] := by
  have hsections : (ringPlanner.plan [⟨5, 2, 0, 0⟩, ⟨50, 6, 0, 0⟩]).2.result.toOption.map
      (·.sections) = some [⟨1, [1, 2]⟩, ⟨3, [3]⟩] := by decide +kernel
  obtain ⟨route, hroute, hsections⟩ := Option.map_eq_some_iff.1 hsections
  have hplan := Fallible.ok_of_toOption hroute
  obtain ⟨shown, hshown, hpreferred, hlanes, -, hothers, -⟩ :=
    visualize_planned (q := ringPlanner) hplan
  rw [hsections] at hlanes hothers
  rw [Route.preferredIds, hsections] at hpreferred
  exact ⟨route, shown, hplan, hsections, hshown, hpreferred, hlanes, hothers⟩

end Planner

end LaneRoute
