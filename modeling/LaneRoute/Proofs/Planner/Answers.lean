import LaneRoute.Proofs.Goal.Answers
import LaneRoute.Proofs.Network.Detours
import LaneRoute.Proofs.Planner.Stops
import LaneRoute.Proofs.Route.Changes

/-!
# Plans that answer

When planning returns a route and when it breaks off. On an accepted network and with settings
that are numbers the search for the path, the goal check and the corrections always answer, so
that a failure is told by the result and an empty route. What breaks a plan off is folding its
path into sections, where a run of lane changes leads past the neighbors of its first lane.
-/

set_option autoImplicit false

namespace LaneRoute.Planner

open RoadNetwork RouteSections

variable {α : Type} [Planar α]

/-- An accepted map with settings that are numbers. Its parking spaces have outlines or none, and
the samples of a lane can be held however many they are. -/
structure Configured (m : LoadedMap α) : Prop where
  accepted : m.network.Accepted
  cost : 0 ≤ m.network.laneChangeCost
  angle : ∃ angle, m.rules.maxAngle = .ok angle
  margin : ∃ margin, m.rules.searchMargin = .ok margin
  goalResolution : ∃ resolution, 0 < resolution ∧ m.goalResolution = .ok resolution
  elevationResolution : ∃ resolution, 0 < resolution ∧ m.elevationResolution = .ok resolution
  spaces : ∀ space ∈ m.network.parkingSpaces, ∃ rings, space.area = .ok rings
  count : ∀ x : α, Scalar.isCountable x = true

/-- On the path through some checkpoints all runs of lane changes are close. -/
def Foldable (p : Planner α) (m : LoadedMap α) (checkpoints : List (Pose α)) : Prop :=
  ∀ path, (joinedPath m.network p.settings.avoidUndrivable [] (legs checkpoints)).result
      = .ok (some path) → ∀ run ∈ changes m.network path, Close m.network run

/-- A draft of which the goal can be checked and raised. -/
def Ready (m : LoadedMap α) (d : Draft α) : Prop :=
  (∀ id ∈ d.path, m.network.isRoad id = true) ∧
    ∃ last ∈ d.sections.getLast?, m.network.isRoad last.preferred = true

section Exact

variable [ExactSums α] {p : Planner α} {m : LoadedMap α} {checkpoints : List (Pose α)}

omit [ExactSums α] in
theorem configured_setMap {settings : Settings α} (vehicle : Vehicle α) {net : RoadNetwork α}
    (ha : net.Accepted) (hc : 0 ≤ net.laneChangeCost)
    (hgoal : 0 < settings.goalResolution) (helevation : 0 < settings.elevationResolution)
    (hspaces : ∀ space ∈ net.parkingSpaces, ∃ rings, space.area = .ok rings)
    (hcount : ∀ x : α, Scalar.isCountable x = true) :
    ∃ m, ((create settings vehicle).setMap net).loaded = some m ∧ m.network = net ∧
      Configured m := by
  refine ⟨_, rfl, rfl, ?_⟩
  exact ⟨ha, hc, ⟨_, rfl⟩, ⟨_, rfl⟩, ⟨_, hgoal, rfl⟩, ⟨_, helevation, rfl⟩, hspaces, hcount⟩

/-! ## Paths -/

theorem exists_joinedPath {net : RoadNetwork α} (ha : net.Accepted) (hc : 0 ≤ net.laneChangeCost)
    (avoid : Bool) (path : List Int) (pairs : List (Pose α × Pose α)) :
    ∃ joined, (joinedPath net avoid path pairs).result = .ok joined := by
  induction pairs generalizing path with
  | nil => exact ⟨some path, rfl⟩
  | cons leg pairs ih =>
    obtain ⟨found, hfound⟩ := exists_pathBetweenPoses ha hc leg.1 leg.2 avoid
    rw [joinedPath, Report.result_bind, hfound]
    cases found with
    | none => exact ⟨none, rfl⟩
    | some ids => exact ih (join path ids)

omit [ExactSums α] in
theorem joined_ne_nil {net : RoadNetwork α} {avoid : Bool} {path : List Int}
    (h : (joinedPath net avoid [] (legs checkpoints)).result = .ok (some path))
    (hseveral : 2 ≤ checkpoints.length) : path ≠ [] := by
  obtain ⟨paths, hpaths, rfl⟩ := exists_paths h
  obtain ⟨start, -, s, -, hfirst⟩ := exists_startCandidate hpaths hseveral
  intro hnil
  simp [hnil] at hfirst

omit [Planar α] [ExactSums α] in
theorem exists_last {net : RoadNetwork α} {path : List Int} {sections : List RouteSection}
    (h : ofPath net path = .ok sections) (hne : path ≠ []) :
    ∃ last ∈ sections.getLast?, last.preferred ∈ path := by
  obtain ⟨ids, runs, hruns, hcarries⟩ := exists_runs h
  obtain ⟨id, rest, rfl⟩ := List.exists_cons_of_ne_nil hne
  have hpath : withoutRepeats (id :: rest) ≠ [] :=
    List.ne_nil_of_mem (mem_withoutRepeats.2 (List.mem_cons_self))
  have hend := getLast?_flatten hcarries
  rw [hruns, List.getLast?_eq_some_getLast hpath] at hend
  obtain ⟨last, hlast, hpreferred⟩ := Option.map_eq_some_iff.1 hend.symm
  exact ⟨last, hlast, mem_withoutRepeats.1 (hpreferred ▸ List.getLast_mem hpath)⟩

/-! ## Drafts -/

theorem exists_correctedGoal (hm : Configured m) (p : Planner α) (goal : Pose α) :
    ∃ target, p.correctedGoal m goal = .ok target := by
  obtain ⟨resolution, -, hresolution⟩ := hm.goalResolution
  unfold correctedGoal
  split
  · exact ⟨goal, rfl⟩
  · obtain ⟨moved, hmoved⟩ := exists_refineLateral hm.count m.network p.vehicle resolution goal
    exact ⟨moved, Fallible.bind_eq_ok.2 ⟨resolution, hresolution, hmoved⟩⟩

omit [ExactSums α] in
theorem result_draft {path : List Int} (hpath : (joinedPath m.network p.settings.avoidUndrivable []
      (legs checkpoints)).result = .ok (some path)) (goal : Pose α) :
    (p.draft m checkpoints goal).result = do
      let sections ← ofPath m.network path
      if p.settings.correctGoal then
        return some ⟨path, sections, ← p.correctedGoal m goal⟩
      else return some ⟨path, sections, goal⟩ := by
  rw [draft, Report.result_bind, hpath]
  show (Report.ofExcept (ofPath m.network path) >>= _ : Report (Notice α) _).result = _
  rw [Report.result_bind, Report.result_ofExcept]
  congr 1
  funext sections
  split
  · rw [Report.result_bind, Report.result_ofExcept]
    rfl
  · rfl

theorem exists_draft (hm : Configured m) (hseveral : 2 ≤ checkpoints.length) (goal : Pose α)
    (hfold : p.Foldable m checkpoints) :
    ∃ found, (p.draft m checkpoints goal).result = .ok found ∧ ∀ d ∈ found, Ready m d := by
  obtain ⟨joined, hjoined⟩ := exists_joinedPath hm.accepted hm.cost p.settings.avoidUndrivable []
    (legs checkpoints)
  cases joined with
  | none =>
    refine ⟨none, ?_, by simp⟩
    rw [draft, Report.result_bind, hjoined]
    rfl
  | some path =>
    have hroads := isRoad_of_joined hjoined hm.accepted
    have hclose := hfold path hjoined
    rw [← withoutRepeats_of_joined hjoined] at hclose
    obtain ⟨onRoute, hsections⟩ := (ofPath_of_close hroads).1 hclose
    obtain ⟨last, hlast, hpreferred⟩ :=
      exists_last hsections (joined_ne_nil hjoined hseveral)
    obtain ⟨target, htarget⟩ := exists_correctedGoal hm p goal
    have hready : ∀ aim, Ready m ⟨path, _, aim⟩ :=
      fun aim => ⟨hroads, last, hlast, hroads _ hpreferred⟩
    rw [result_draft hjoined, hsections]
    by_cases hcorrect : p.settings.correctGoal = true
    · refine ⟨some ⟨path, _, target⟩, ?_, by simpa using hready target⟩
      simp only [bind, Except.bind, hcorrect, if_true, htarget]
      rfl
    · refine ⟨some ⟨path, _, goal⟩, ?_, by simpa using hready goal⟩
      simp only [bind, Except.bind, if_neg hcorrect]
      rfl

omit [ExactSums α] in
theorem draft_misses (hm : Configured m) (goal : Pose α) (hfold : ¬ p.Foldable m checkpoints) :
    ∃ id primitives, id ∉ primitives ∧
      (p.draft m checkpoints goal).result = .error (.notAMember id primitives) := by
  simp only [Foldable, not_forall, exists_prop] at hfold
  obtain ⟨path, hjoined, run, hrun, hfar⟩ := hfold
  have hroads := isRoad_of_joined hjoined hm.accepted
  obtain ⟨id, primitives, hmem, hsections⟩ : Misses (ofPath m.network path) := by
    apply (ofPath_of_close hroads).2
    rw [withoutRepeats_of_joined hjoined]
    exact fun hclose => hfar (hclose run hrun)
  refine ⟨id, primitives, hmem, ?_⟩
  rw [result_draft hjoined, hsections]
  rfl

/-! ## Plans -/

theorem exists_finish (hm : Configured m) {d : Draft α} (hd : Ready m d) (start : Pose α)
    (admissible : Bool) : ∃ outcome, (finish m start d admissible).result = .ok outcome := by
  obtain ⟨-, last, hlast, hroad⟩ := hd
  obtain ⟨resolution, -, hresolution⟩ := hm.elevationResolution
  obtain ⟨goal, hgoal⟩ := exists_refineElevation hm.count hroad resolution d.goal
  unfold finish
  split
  · exact ⟨_, rfl⟩
  · split
    · exact ⟨_, rfl⟩
    · rw [Option.mem_def] at hlast
      rw [hlast, hresolution]
      dsimp only
      rw [Report.result_bind, Report.result_ofExcept]
      exact ⟨_, Fallible.bind_eq_ok.2 ⟨goal, Fallible.bind_eq_ok.2 ⟨resolution, rfl, hgoal⟩, rfl⟩⟩

variable [Faultless α]

theorem exists_planOn (hm : Configured m) (hseveral : 2 ≤ checkpoints.length) (start goal : Pose α)
    (hfold : p.Foldable m checkpoints) :
    ∃ outcome, (p.planOn m checkpoints start goal).2.result = .ok outcome := by
  obtain ⟨found, hfound, hready⟩ := exists_draft hm hseveral goal hfold
  cases found with
  | none =>
    simp only [planOn, hfound]
    exact ⟨_, rfl⟩
  | some d =>
    have hd := hready d rfl
    obtain ⟨admissible, hadmissible⟩ := exists_checkGoal hm.accepted hm.angle hm.margin hm.spaces
      hd.1 d.goal
    obtain ⟨outcome, houtcome⟩ := exists_finish hm hd start admissible
    simp only [planOn, hfound]
    rw [Report.result_bind]
    exact ⟨outcome, Fallible.bind_eq_ok.2 ⟨admissible, hadmissible, houtcome⟩⟩

theorem plan_of_foldable (hm : Configured m) (hp : p.loaded = some m)
    (hseveral : 2 ≤ checkpoints.length) :
    (p.Foldable m checkpoints → ∃ route, (p.plan checkpoints).2.result = .ok route) ∧
    (¬ p.Foldable m checkpoints → ∃ id primitives, id ∉ primitives ∧
      (p.plan checkpoints).2.result = .error (.notAMember id primitives)) := by
  rcases checkpoints with _ | ⟨start, _ | ⟨next, rest⟩⟩
  · simp at hseveral
  · simp at hseveral
  constructor
  · intro hfold
    obtain ⟨outcome, houtcome⟩ := exists_planOn hm hseveral start
      ((next :: rest).getLast (by simp)) hfold
    simp only [plan, hp, planOn_occupy, houtcome]
    exact ⟨_, rfl⟩
  · intro hfold
    obtain ⟨id, primitives, hmem, hdraft⟩ := draft_misses hm
      ((next :: rest).getLast (by simp)) hfold
    refine ⟨id, primitives, hmem, ?_⟩
    simp only [plan, hp, planOn_occupy]
    simp only [planOn, hdraft]

/-- Planning returns a route exactly when the runs of lane changes on its path are close, as
they are where lateral references are mutual, and an empty route exactly when it failed. It
never breaks off for another reason than a lane that its section misses. -/
theorem plan_answers_iff (hm : Configured m) (hp : p.loaded = some m)
    (hseveral : 2 ≤ checkpoints.length) :
    ((∃ route, (p.plan checkpoints).2.result = .ok route) ↔ p.Foldable m checkpoints) ∧
    (m.network.Mutual → ∃ route, (p.plan checkpoints).2.result = .ok route) ∧
    (∀ route, (p.plan checkpoints).2.result = .ok route →
      (route.isEmpty = true ↔ (p.plan checkpoints).1.lastResult ≠ .success)) ∧
    ∀ fault, (p.plan checkpoints).2.result = .error fault →
      ∃ id primitives, id ∉ primitives ∧ fault = .notAMember id primitives := by
  obtain ⟨hanswer, hbreak⟩ := plan_of_foldable hm hp hseveral
  have hiff : (∃ route, (p.plan checkpoints).2.result = .ok route) ↔ p.Foldable m checkpoints := by
    constructor
    · rintro ⟨route, hroute⟩
      by_contra hfold
      obtain ⟨id, primitives, -, hfault⟩ := hbreak hfold
      rw [hroute] at hfault
      cases hfault
    · exact hanswer
  refine ⟨hiff, ?known, fun route hroute => isEmpty_iff_of_plan hp hroute, ?fault⟩
  case known =>
    intro hmutual
    apply hanswer
    intro path hpath
    exact close_of_mutual hm.accepted hmutual (isRoad_of_joined hpath hm.accepted)
  case fault =>
    intro fault hfault
    have hfold : ¬ p.Foldable m checkpoints := by
      rw [← hiff]
      rintro ⟨route, hroute⟩
      rw [hroute] at hfault
      cases hfault
    obtain ⟨id, primitives, hmem, hresult⟩ := hbreak hfold
    rw [hresult] at hfault
    cases hfault
    exact ⟨id, primitives, hmem, rfl⟩

end Exact

def ringPlanner : Planner Rat := (create crossingSettings crossingVehicle).setMap ringNetwork

/-- On the ring, where lateral references are mutual, planning answers. -/
theorem ring_answers : ∃ m, ringPlanner.loaded = some m ∧ Configured m ∧
    ∃ route, (ringPlanner.plan [⟨5, 6, 0, 0⟩, ⟨50, 6, 0, 0⟩]).2.result = .ok route := by
  have hc : 0 ≤ ringNetwork.laneChangeCost := by decide
  have hgoal : 0 < crossingSettings.goalResolution := by decide
  have helevation : 0 < crossingSettings.elevationResolution := by decide
  obtain ⟨m, hm, hnet, hconfigured⟩ := configured_setMap crossingVehicle accepted_ring hc hgoal
    helevation (by simp [ringNetwork]) fun _ => rfl
  have hmutual : m.network.Mutual := hnet ▸ mutual_ring
  have hseveral : 2 ≤ [(⟨5, 6, 0, 0⟩ : Pose Rat), ⟨50, 6, 0, 0⟩].length := by simp
  exact ⟨m, hm, hconfigured, (plan_answers_iff hconfigured hm hseveral).2.1 hmutual⟩

/-! ## Lanes that are staggered -/

/-- A row of two roads and a long road on its right, which leads back to the second one only. -/
def staggeredRoads : List (Segment Rat) :=
  [{ plainRoad 1 [⟨0, 8, 0⟩, ⟨30, 8, 0⟩] [⟨0, 4, 0⟩, ⟨30, 4, 0⟩] [3] with
      right := ⟨some 2, .ofBool true, .ofBool true⟩ },
   { plainRoad 2 [⟨0, 4, 0⟩, ⟨60, 4, 0⟩] [⟨0, 0, 0⟩, ⟨60, 0, 0⟩] [] with
      left := ⟨some 3, .ofBool true, .ofBool true⟩ },
   { plainRoad 3 [⟨30, 8, 0⟩, ⟨60, 8, 0⟩] [⟨30, 4, 0⟩, ⟨60, 4, 0⟩] [] with
      right := ⟨some 2, .ofBool true, .ofBool false⟩ }]

def staggered : RoadNetwork Rat := ⟨link staggeredRoads, [], [], 2⟩

theorem accepted_staggered : staggered.Accepted := by
  have hcheck : (RoadNetwork.check staggeredRoads).isOk := by decide +kernel
  have hids : (staggeredRoads.map (·.id)).Pairwise (· ≤ ·) := by
    simp [staggeredRoads, plainRoad]
  exact accepted_of_ascending hcheck hids [] [] 2

def staggeredPlanner : Planner Rat := (create crossingSettings crossingVehicle).setMap staggered

/-- Two lane changes are cheaper than staying in the row, and the second one leads past what is
beside the first road. -/
theorem staggered_breaks : ∃ m, staggeredPlanner.loaded = some m ∧ m.network = staggered ∧
    Configured m ∧ ¬ ∃ route,
      (staggeredPlanner.plan [⟨5, 6, 0, 0⟩, ⟨50, 6, 0, 0⟩]).2.result = .ok route := by
  have hc : 0 ≤ staggered.laneChangeCost := by decide
  have hgoal : 0 < crossingSettings.goalResolution := by decide
  have helevation : 0 < crossingSettings.elevationResolution := by decide
  obtain ⟨m, hm, hnet, hconfigured⟩ := configured_setMap crossingVehicle accepted_staggered hc
    hgoal helevation (by simp [staggered]) fun _ => rfl
  refine ⟨m, hm, hnet, hconfigured, ?_⟩
  rintro ⟨route, hroute⟩
  have hnone : (staggeredPlanner.plan [⟨5, 6, 0, 0⟩, ⟨50, 6, 0, 0⟩]).2.result.toOption.isSome
      = false := by decide +kernel
  rw [hroute] at hnone
  cases hnone

end LaneRoute.Planner
