import LaneRoute.Proofs.Goal.Admission
import LaneRoute.Proofs.Planner.Stops

/-!
# Arrivals

A route ends at a goal candidate, which is chosen by the cost of the path and whatever its
heading; the goal is checked against a road that is chosen by heading. The two agree on where
the goal is, and where no other road lies at the goal they agree on the road.
-/

set_option autoImplicit false

namespace LaneRoute.Planner

open RoadNetwork

variable {α : Type} [Planar α]

/-- The target of a successful plan, unless it is parked, is on a road of the network and along
it. The route ends on a road at the goal whenever there is one, and when there is no other one
and the goal was not moved, the goal is along this road. -/
theorem plan_arrives {p : Planner α} {m : LoadedMap α} {checkpoints : List (Pose α)}
    {route : Route α} (ha : m.network.Accepted) (hm : p.loaded = some m)
    (h : (p.plan checkpoints).2.result = .ok route)
    (hsuccess : (p.plan checkpoints).1.lastResult = .success) :
    ∃ goal ∈ checkpoints.getLast?, ∃ target, p.Aims m goal target ∧
      (¬ m.network.Parked m.rules target →
        ∃ road ∈ m.network.roads, m.network.goalRoad? target = some road ∧
          road.outline.isOn target.point = true ∧ Along m.rules target road) ∧
      ∃ last ∈ route.sections.getLast?, last.preferred ∈ last.primitives ∧
        (m.network.roadsAt goal.point ≠ [] →
          ∃ s ∈ m.network.roadsAt goal.point, m.network.segment? last.preferred = some s ∧
            (p.settings.correctGoal = false → ¬ m.network.Parked m.rules goal →
              Scalar.isBounded (0 : α) = true → m.network.roadsAt goal.point = [s] →
              Along m.rules goal s)) := by
  obtain ⟨-, path, target, hplanned⟩ | ⟨hother, -⟩ := plan_eq_ok hm h
  · have hcalls := hplanned.calls ha
    obtain ⟨goal, hgoal, haims⟩ := hplanned.aimed
    obtain ⟨goal', hgoal', last, hlast, hcandidate⟩ := hcalls.arrives
    obtain rfl : goal = goal' := Option.some.inj (hgoal.symm.trans hgoal')
    have hadmits := checkGoal_admits hplanned.admitted
    refine ⟨goal, hgoal, target, haims, ?_, last, hlast, ?_, ?_⟩
    · intro hparked
      obtain ⟨road, hroad, hon, halong⟩ := hadmits.resolve_left hparked
      exact ⟨road, goalRoad?_mem hroad, hroad, hon, halong⟩
    · exact hcalls.preferred last (List.mem_of_getLast? hlast)
    · intro hroads
      obtain ⟨s, hs, hid⟩ := exists_roadAt_of_mem_goalCandidates hcandidate hroads
      have hsegment : s ∈ m.network.segments := (List.mem_filter.1 (mem_roadsAt.1 hs).1).1
      refine ⟨s, hs, ha.segment?_eq_some.2 ⟨hsegment, hid⟩, ?_⟩
      intro hcorrect hparked hzero honly
      -- the road that the goal was checked against is the only one at it
      obtain rfl : target = goal := by simpa [Aims, hcorrect] using haims
      obtain ⟨road, hroad, -, halong⟩ := hadmits.resolve_left hparked
      obtain rfl : s = road :=
        Option.some.inj ((goalRoad?_of_singleton hzero honly).symm.trans hroad)
      exact halong
  · exact absurd hsuccess hother

/-- North of the crossing there is the second road only, and the goal is along it. -/
theorem crossing_arrives : (crossingMap true).network.Accepted ∧
    ∃ s, (crossingMap true).network.segment? 2 = some s ∧
      Along (crossingMap true).rules ⟨20, 15, 0, Rational.quarterTurn⟩ s := by
  have ha : (crossingMap true).network.Accepted := accepted_crossing true
  obtain ⟨route, hroute, hsuccess⟩ := exists_crossingRoute true
  obtain ⟨goal, hgoal, target, -, -, last, -, -, hreached⟩ :=
    plan_arrives ha (loaded_crossingPlanner true) hroute hsuccess
  obtain rfl : (⟨20, 15, 0, Rational.quarterTurn⟩ : Pose Rat) = goal := Option.some.inj hgoal
  have hone : ((crossingMap true).network.roadsAt ⟨20, 15⟩).map (·.id) = [2] := by
    decide +kernel
  obtain ⟨s, hs, hid⟩ := List.map_eq_singleton_iff.1 hone
  obtain ⟨t, ht, hsegment, halong⟩ := hreached (by simp [Pose.point, hs])
  obtain rfl : t = s := by simpa [Pose.point, hs] using ht
  refine ⟨ha, t, ?_, halong rfl (not_parked_crossing true _ _) rfl hs⟩
  exact ha.segment?_eq_some.2 ⟨(ha.segment?_eq_some.1 hsegment).1, hid⟩

/-- On the crossing itself the route to a goal along the second road ends on the first. -/
theorem crossing_astray : (crossingMap true).network.Accepted ∧
    ¬ (crossingMap true).network.Parked (crossingMap true).rules
      ⟨20, 0, 0, Rational.quarterTurn⟩ ∧
    ∃ route last, ((crossingPlanner true).plan
        [⟨5, 0, 0, 0⟩, ⟨20, 0, 0, Rational.quarterTurn⟩]).2.result = .ok route ∧
      ((crossingPlanner true).plan
        [⟨5, 0, 0, 0⟩, ⟨20, 0, 0, Rational.quarterTurn⟩]).1.lastResult = .success ∧
      route.sections.getLast? = some last ∧
      ¬ ∃ id ∈ last.primitives, ∃ s, (crossingMap true).network.segment? id = some s ∧
        s.outline.isOn ⟨20, 0⟩ = true ∧
        Along (crossingMap true).rules ⟨20, 0, 0, Rational.quarterTurn⟩ s := by
  refine ⟨accepted_crossing true, not_parked_crossing true _ _, ?_⟩
  have hplan : ((crossingPlanner true).plan
      [⟨5, 0, 0, 0⟩, ⟨20, 0, 0, Rational.quarterTurn⟩]).2.result.toOption.map (·.sections)
        = some [⟨1, [1]⟩] := by decide +kernel
  obtain ⟨route, hroute, hsections⟩ := Option.map_eq_some_iff.1 hplan
  refine ⟨route, ⟨1, [1]⟩, Fallible.ok_of_toOption hroute, by decide +kernel,
    by rw [hsections]; rfl, ?_⟩
  rintro ⟨id, hid, s, hs, -, halong⟩
  obtain rfl : id = 1 := by simpa using hid
  have hacross : ((crossingMap true).network.segment? 1).all (fun s => !decide (Along
      (crossingMap true).rules ⟨20, 0, 0, Rational.quarterTurn⟩ s)) = true := by
    decide +kernel
  rw [hs] at hacross
  simp [halong] at hacross

end LaneRoute.Planner
