import LaneRoute.Proofs.Planner.Stops

/-!
# Seams between legs

The paths of the legs follow the roads, but each leg chooses its roads for itself: a goal
candidate of a checkpoint need not be one of its start candidates. A plan follows the roads as
a whole exactly when at every checkpoint between its path goes on where it came to.
-/

set_option autoImplicit false

namespace LaneRoute.Planner

variable {α : Type} [Planar α]

/-- The path that a successful plan is folded from follows the roads exactly when the paths of
its legs do so at their seams. -/
theorem plan_isChain_iff {p : Planner α} {m : LoadedMap α} {checkpoints : List (Pose α)}
    {route : Route α} (ha : m.network.Accepted) (hm : p.loaded = some m)
    (h : (p.plan checkpoints).2.result = .ok route)
    (hsuccess : (p.plan checkpoints).1.lastResult = .success) :
    ∃ path paths,
      (joinedPath m.network p.settings.avoidUndrivable [] (legs checkpoints)).result
        = .ok (some path) ∧
      RouteSections.ofPath m.network path = .ok route.sections ∧
      List.Forall₂ (Travels m.network p.settings.avoidUndrivable) (legs checkpoints) paths ∧
      (∀ ids ∈ paths, ids.IsChain m.network.Leads) ∧
      (path.IsChain m.network.Leads ↔ paths.IsChain (Seam m.network.Leads)) := by
  obtain ⟨-, path, target, hplanned⟩ | ⟨hother, -⟩ := plan_eq_ok hm h
  · obtain ⟨paths, hpaths, rfl⟩ := exists_paths hplanned.joined
    have hfollow : ∀ ids ∈ paths, ids ≠ [] ∧ ids.IsChain m.network.Leads ∧
        ids.IsChain (· ≠ ·) := by
      intro ids hids
      obtain ⟨leg, -, hleg⟩ := RouteSections.exists_of_mem_forall₂ hpaths hids
      exact ⟨hleg.ne_nil, hleg.isChain ha, hleg.isChain_ne⟩
    refine ⟨_, paths, hplanned.joined, hplanned.folded, hpaths,
      fun ids hids => (hfollow ids hids).2.1, ?_⟩
    rw [isChain_joined_iff hfollow, List.isChain_cons]
    simp [Seam]
  · exact absurd hsuccess hother

theorem joinedPath_crossing (linked : Bool) :
    (joinedPath (crossingMap linked).network false [] (legs crossingCheckpoints)).result
      = .ok (some [1, 2]) :=
  Fallible.ok_of_toOption (by cases linked <;> decide +kernel)

/-- Where the second road of the crossing follows the first, the legs meet. -/
theorem crossing_seams : (crossingMap true).network.Accepted ∧
    ∃ paths, List.Forall₂ (Travels (crossingMap true).network false) (legs crossingCheckpoints)
        paths ∧
      paths.IsChain (Seam (crossingMap true).network.Leads) := by
  have ha : (crossingMap true).network.Accepted := RoadNetwork.accepted_crossing true
  obtain ⟨route, hroute, hsuccess⟩ := exists_crossingRoute true
  obtain ⟨path, paths, hpath, -, hpaths, -, hiff⟩ :=
    plan_isChain_iff ha (loaded_crossingPlanner true) hroute hsuccess
  obtain rfl : path = [1, 2] :=
    Option.some.inj (Except.ok.inj (hpath.symm.trans (joinedPath_crossing true)))
  have hchain : [1, 2].IsChain (crossingMap true).network.Leads := by decide
  exact ⟨ha, paths, hpaths, hiff.1 hchain⟩

/-- Where it does not, a plan succeeds although its path leaves the first road for the second. -/
theorem crossing_jumps : (crossingMap false).network.Accepted ∧
    0 ≤ (crossingMap false).network.laneChangeCost ∧
    ∃ route path, ((crossingPlanner false).plan crossingCheckpoints).2.result = .ok route ∧
      ((crossingPlanner false).plan crossingCheckpoints).1.lastResult = .success ∧
      (joinedPath (crossingMap false).network false [] (legs crossingCheckpoints)).result
        = .ok (some path) ∧
      RouteSections.ofPath (crossingMap false).network path = .ok route.sections ∧
      ¬ path.IsChain (crossingMap false).network.Leads := by
  refine ⟨RoadNetwork.accepted_crossing false, by decide +kernel, ?_⟩
  obtain ⟨route, hroute, hsuccess⟩ := exists_crossingRoute false
  obtain ⟨-, path, target, hplanned⟩ | ⟨hother, -⟩ :=
    plan_eq_ok (loaded_crossingPlanner false) hroute
  · obtain rfl : path = [1, 2] :=
      Option.some.inj (Except.ok.inj (hplanned.joined.symm.trans (joinedPath_crossing false)))
    exact ⟨route, [1, 2], hroute, hsuccess, joinedPath_crossing false, hplanned.folded,
      by decide +kernel⟩
  · exact absurd hsuccess hother

end LaneRoute.Planner
