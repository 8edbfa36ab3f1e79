import LaneRoute.Proofs.Fallible
import LaneRoute.Planner.Basic

/-!
# Histories

What any calls on a new planner leave behind, calls that break off included. One lemma says
what a single call keeps; that all of a history keeps it follows by induction. A planner ends up
determined by the last map that it was given, but for the route that it holds, the result that
it keeps and the memory of its goal checks, and no plan depends on these.
-/

set_option autoImplicit false

namespace LaneRoute.Planner

variable {α : Type}

/-- A call of the user of a planner. -/
inductive Call (α : Type) where
  | setMap (network : RoadNetwork α)
  | plan (checkpoints : List (Pose α))
  | checkGoal (goal : Pose α) (preceding : List Int)
  | updateRoute (route : Option (Route α))
  | clearRoute
  | visualize (route : Option (Route α))

inductive Answer (α : Type) where
  | done
  | route (route : Route α)
  | verdict (admissible : Bool)
  | markers (markers : Markers α)

namespace Call

def network? : Call α → Option (RoadNetwork α)
  | setMap network => some network
  | _ => none

def routeAfter (held : Option (Route α)) : Call α → Option (Route α)
  | setMap _ => none
  | clearRoute => none
  | updateRoute route => route
  | _ => held

end Call

def lastNetwork? (calls : List (Call α)) : Option (RoadNetwork α) :=
  (calls.filterMap Call.network?).getLast?

theorem lastNetwork?_cons (call : Call α) (calls : List (Call α)) :
    lastNetwork? (call :: calls) = (lastNetwork? calls).or call.network? := by
  cases h : call.network? with
  | none => simp [lastNetwork?, h]
  | some network => simp [lastNetwork?, h, List.getLast?_cons, Option.or_some]

theorem lastNetwork?_eq_none_iff {calls : List (Call α)} :
    lastNetwork? calls = none ↔ ∀ network, Call.setMap network ∉ calls := by
  rw [lastNetwork?, List.getLast?_eq_none_iff, List.filterMap_eq_nil_iff]
  constructor
  · intro h network hmem
    cases h _ hmem
  intro h call hmem
  cases call with
  | setMap network => exact absurd hmem (h network)
  | _ => rfl

/-- What `setMap` makes of a network, with what is kept of the goal checks since then. -/
def mapOf (settings : Parameters α) (vehicle : Vehicle α) (memory : GoalMemory α)
    (network : RoadNetwork α) : LoadedMap α where
  network := network
  rules := {
    vehicle := vehicle
    maxAngle := settings.goalAngle
    checkFootprint := settings.checkFootprint
    searchMargin := settings.searchMargin }
  goalResolution := settings.goalResolution
  elevationResolution := settings.elevationResolution
  memory := memory

@[simp] theorem loaded_setMap (p : Planner α) (network : RoadNetwork α) :
    (p.setMap network).loaded = some (mapOf p.settings p.vehicle .fresh network) := rfl

variable [Planar α]

def perform (p : Planner α) : Call α → Planner α × Report (Notice α) (Answer α)
  | .setMap network => (p.setMap network, pure .done)
  | .plan checkpoints =>
    let (after, report) := p.plan checkpoints
    (after, do return .route (← report))
  | .checkGoal goal preceding =>
    let (after, report) := p.checkGoal goal preceding
    (after, do return .verdict (← report))
  | .updateRoute route => (p.updateRoute route, pure .done)
  | .clearRoute => (p.clearRoute, pure .done)
  | .visualize route => (p, do return .markers (← Report.ofExcept (p.visualize route)))

def run (p : Planner α) (calls : List (Call α)) : Planner α :=
  calls.foldl (fun p call => (p.perform call).1) p

/-! ## What a call keeps -/

/-- A planner between two calls: its settings and vehicle are those it was made with, it is not
at work, and its map is that of the last network, if there was one. -/
structure Rests (settings : Parameters α) (vehicle : Vehicle α)
    (network : Option (RoadNetwork α)) (p : Planner α) : Prop where
  settings_eq : p.settings = settings
  vehicle_eq : p.vehicle = vehicle
  notPlanning : p.state ≠ .planning
  loaded_eq : ∃ memory, p.loaded = network.map (mapOf settings vehicle memory)

theorem plan_fst (p : Planner α) (checkpoints : List (Pose α)) :
    (p.plan checkpoints).1 = p ∨
      ∃ m memory, p.loaded = some m ∧
        ((p.plan checkpoints).1 = (p.occupy m).release m memory ∨
          ∃ route result, (p.plan checkpoints).2.result = .ok route ∧
            (p.plan checkpoints).1 =
              { (p.occupy m).release m memory with lastResult := result }) := by
  cases hm : p.loaded with
  | none => simp [plan, hm]
  | some m =>
    rcases checkpoints with _ | ⟨start, _ | ⟨next, rest⟩⟩
    · simp [plan, hm]
    · simp [plan, hm]
    refine Or.inr ⟨m, (p.planOn m (start :: next :: rest) start
      ((next :: rest).getLast (by simp))).1, rfl, ?_⟩
    simp only [plan, hm, planOn_occupy]
    split
    next => exact Or.inl rfl
    next => exact Or.inr ⟨_, _, rfl, rfl⟩

theorem checkGoal_fst (p : Planner α) (goal : Pose α) (preceding : List Int) :
    ∃ memory, (p.checkGoal goal preceding).1 = p.remember memory := by
  cases hm : p.loaded with
  | none =>
    refine ⟨.fresh, ?_⟩
    simp only [checkGoal, remember, hm, Option.map_none]
    simp only [← hm]
  | some m =>
    refine ⟨m.memory.record (m.network.checkGoal m.rules goal preceding), ?_⟩
    simp only [checkGoal, hm]

namespace Rests

variable {settings : Parameters α} {vehicle : Vehicle α} {network : Option (RoadNetwork α)}
  {p q : Planner α}

section State

omit [Planar α]

theorem state_eq_idle_iff (h : Rests settings vehicle network p) :
    p.state = .idle ↔ network = none := by
  obtain ⟨memory, hloaded⟩ := h.loaded_eq
  rw [p.idle_iff, hloaded, Option.map_eq_none_iff]

theorem idle_or_ready (h : Rests settings vehicle network p) :
    p.state = .idle ∨ p.state = .ready := by
  have hrests := h.notPlanning
  cases hstate : p.state with
  | planning => exact absurd hstate hrests
  | _ => simp

theorem state_eq_ready_iff (h : Rests settings vehicle network p) :
    p.state = .ready ↔ network ≠ none := by
  rw [Ne, ← h.state_eq_idle_iff]
  rcases h.idle_or_ready with hstate | hstate <;> simp [hstate]

theorem loaded_of_none (h : Rests settings vehicle none p) : p.loaded = none := by
  obtain ⟨memory, hloaded⟩ := h.loaded_eq
  exact hloaded

theorem loaded_of_some {n : RoadNetwork α} (h : Rests settings vehicle (some n) p) :
    ∃ memory, p.loaded = some (mapOf settings vehicle memory n) := by
  obtain ⟨memory, hloaded⟩ := h.loaded_eq
  exact ⟨memory, hloaded⟩

theorem release (h : Rests settings vehicle network p) {m : LoadedMap α}
    (hm : p.loaded = some m) (memory : GoalMemory α) :
    Rests settings vehicle network ((p.occupy m).release m memory) := by
  obtain ⟨before, hbefore⟩ := h.loaded_eq
  obtain ⟨n, rfl, rfl⟩ := Option.map_eq_some_iff.1 (hbefore.symm.trans hm)
  exact ⟨h.settings_eq, h.vehicle_eq, nofun, memory, rfl⟩

theorem remember (h : Rests settings vehicle network p) (memory : GoalMemory α) :
    Rests settings vehicle network (p.remember memory) := by
  obtain ⟨before, hbefore⟩ := h.loaded_eq
  refine ⟨h.settings_eq, h.vehicle_eq, h.notPlanning, memory, ?_⟩
  change p.loaded.map _ = _
  rw [hbefore, Option.map_map]
  rfl

end State

theorem plan (h : Rests settings vehicle network p) (checkpoints : List (Pose α)) :
    Rests settings vehicle network (p.plan checkpoints).1 := by
  rcases p.plan_fst checkpoints with hp | ⟨m, memory, hm, hp | ⟨-, result, -, hp⟩⟩
  · rwa [hp]
  · rw [hp]
    exact h.release hm memory
  · have hreleased := h.release hm memory
    rw [hp]
    exact ⟨hreleased.settings_eq, hreleased.vehicle_eq, hreleased.notPlanning,
      hreleased.loaded_eq⟩

theorem checkGoal (h : Rests settings vehicle network p) (goal : Pose α)
    (preceding : List Int) :
    Rests settings vehicle network (p.checkGoal goal preceding).1 := by
  obtain ⟨memory, hp⟩ := p.checkGoal_fst goal preceding
  rw [hp]
  exact h.remember memory

theorem perform (h : Rests settings vehicle network p) (call : Call α) :
    Rests settings vehicle (call.network?.or network) (p.perform call).1 := by
  cases call with
  | setMap n =>
    refine ⟨h.settings_eq, h.vehicle_eq, nofun, .fresh, ?_⟩
    simp [Planner.perform, Call.network?, h.settings_eq, h.vehicle_eq]
  | plan checkpoints => exact h.plan checkpoints
  | checkGoal goal preceding => exact h.checkGoal goal preceding
  | updateRoute route => exact ⟨h.settings_eq, h.vehicle_eq, h.notPlanning, h.loaded_eq⟩
  | clearRoute => exact ⟨h.settings_eq, h.vehicle_eq, h.notPlanning, h.loaded_eq⟩
  | visualize route => exact h

theorem run (calls : List (Call α)) (h : Rests settings vehicle network p) :
    Rests settings vehicle ((lastNetwork? calls).or network) (p.run calls) := by
  induction calls generalizing network p with
  | nil => exact h
  | cons call calls ih =>
    rw [lastNetwork?_cons, Option.or_assoc]
    exact ih (h.perform call)

end Rests

theorem rests_create (settings : Settings α) (vehicle : Vehicle α) (calls : List (Call α)) :
    Rests (settings.map .ok) vehicle (lastNetwork? calls)
      ((create settings vehicle).run calls) := by
  have hnew : Rests (settings.map .ok) vehicle none (create settings vehicle) :=
    ⟨rfl, rfl, nofun, .fresh, rfl⟩
  simpa using hnew.run calls

/-! ## Refusals -/

theorem plan_of_unloaded {p : Planner α} (h : p.loaded = none) (checkpoints : List (Pose α)) :
    p.plan checkpoints = (p, ⟨[.mapNotSet], .error (.noMap .route)⟩) := by
  simp [plan, h]

theorem checkGoal_of_unloaded {p : Planner α} (h : p.loaded = none) (goal : Pose α)
    (preceding : List Int) :
    p.checkGoal goal preceding = (p, ⟨[], .error (.noMap .goalCheck)⟩) := by
  simp [checkGoal, h]

theorem plan_of_few {p : Planner α} {m : LoadedMap α} (h : p.loaded = some m)
    {checkpoints : List (Pose α)} (hfew : checkpoints.length < 2) :
    p.plan checkpoints = (p, ⟨[], .error (.tooFewCheckpoints checkpoints.length)⟩) := by
  rcases checkpoints with _ | ⟨start, _ | ⟨next, rest⟩⟩
  · simp [plan, h]
  · simp [plan, h]
  · simp only [List.length_cons] at hfew
    omega

/-! ## The held route and the kept result -/

theorem route_perform (p : Planner α) (call : Call α) :
    (p.perform call).1.route = call.routeAfter p.route := by
  cases call with
  | plan checkpoints =>
    change (p.plan checkpoints).1.route = p.route
    rcases p.plan_fst checkpoints with hp | ⟨m, memory, -, hp | ⟨-, result, -, hp⟩⟩ <;>
      rw [hp] <;> rfl
  | checkGoal goal preceding =>
    obtain ⟨memory, hp⟩ := p.checkGoal_fst goal preceding
    exact (congrArg Planner.route hp).trans rfl
  | _ => rfl

theorem lastResult_perform (p : Planner α) (call : Call α) :
    (p.perform call).1.lastResult = p.lastResult ∨
      ∃ checkpoints route, call = .plan checkpoints ∧
        (p.perform call).2.result = .ok (.route route) := by
  cases call with
  | plan checkpoints =>
    rcases p.plan_fst checkpoints with hp | ⟨m, memory, -, hp | ⟨route, -, hroute, -⟩⟩
    · exact Or.inl (congrArg lastResult hp)
    · exact Or.inl ((congrArg lastResult hp).trans rfl)
    · refine Or.inr ⟨checkpoints, route, rfl, ?_⟩
      change (Report.result do return Answer.route (← (p.plan checkpoints).2)) = _
      rw [Report.result_bind, hroute]
      rfl
  | checkGoal goal preceding =>
    obtain ⟨memory, hp⟩ := p.checkGoal_fst goal preceding
    exact Or.inl ((congrArg lastResult hp).trans rfl)
  | _ => exact Or.inl rfl

/-! ## Plans do not depend on what was asked before -/

theorem planOn_snd {p q : Planner α} (hsettings : p.settings = q.settings)
    (hvehicle : p.vehicle = q.vehicle) (settings : Parameters α) (vehicle : Vehicle α)
    (network : RoadNetwork α) (memory memory' : GoalMemory α) (checkpoints : List (Pose α))
    (start goal : Pose α) :
    (p.planOn (mapOf settings vehicle memory network) checkpoints start goal).2
      = (q.planOn (mapOf settings vehicle memory' network) checkpoints start goal).2 := by
  have hdraft : p.draft (mapOf settings vehicle memory network) checkpoints goal
      = q.draft (mapOf settings vehicle memory' network) checkpoints goal := by
    simp only [draft, correctedGoal, hsettings, hvehicle]
    rfl
  simp only [planOn, hdraft]
  split <;> rfl

theorem Rests.plan_congr {settings : Parameters α} {vehicle : Vehicle α}
    {network : Option (RoadNetwork α)} {p q : Planner α}
    (hp : Rests settings vehicle network p) (hq : Rests settings vehicle network q)
    (checkpoints : List (Pose α)) :
    (p.plan checkpoints).2 = (q.plan checkpoints).2 ∧
      ∀ route, (p.plan checkpoints).2.result = .ok route →
        (p.plan checkpoints).1.lastResult = (q.plan checkpoints).1.lastResult := by
  cases network with
  | none => simp [plan_of_unloaded hp.loaded_of_none, plan_of_unloaded hq.loaded_of_none]
  | some n =>
    obtain ⟨memory, hpm⟩ := hp.loaded_of_some
    obtain ⟨memory', hqm⟩ := hq.loaded_of_some
    rcases checkpoints with _ | ⟨start, _ | ⟨next, rest⟩⟩
    · simp [plan_of_few hpm, plan_of_few hqm]
    · simp [plan_of_few hpm, plan_of_few hqm]
    have houtcome := planOn_snd (hp.settings_eq.trans hq.settings_eq.symm)
      (hp.vehicle_eq.trans hq.vehicle_eq.symm) settings vehicle n memory memory'
      (start :: next :: rest) start ((next :: rest).getLast (by simp))
    simp only [Planner.plan, hpm, hqm, planOn_occupy, houtcome]
    rcases (q.planOn (mapOf settings vehicle memory' n) (start :: next :: rest) start
      ((next :: rest).getLast (by simp))).2.result with fault | ⟨route, result⟩
    · exact ⟨rfl, nofun⟩
    · exact ⟨rfl, fun _ _ => rfl⟩

/-- After any calls on a new planner, those that broke off included, the planner is idle or
ready and not at work. It is ready once a map was set, and then goals are checked and plans are
made on the network of the last map. A planner without a map refuses plans and goal checks, one
with a map refuses plans through fewer than two checkpoints, and both stay as they are. The held
route changes only as its user says, or with the map, and the kept result only when a plan
returns. What is planned next is the same after all histories with the same last map. -/
theorem after_calls (settings : Settings α) (vehicle : Vehicle α) (calls : List (Call α)) :
    let p := (create settings vehicle).run calls
    (p.state = .idle ∨ p.state = .ready) ∧
    (p.state = .ready ↔ ∃ network, .setMap network ∈ calls) ∧
    (∀ network ∈ lastNetwork? calls, ∃ memory,
      let m := mapOf (settings.map .ok) vehicle memory network
      p.loaded = some m ∧
      (∀ goal preceding,
        (p.checkGoal goal preceding).2 = (network.checkGoal m.rules goal preceding).report) ∧
      ∀ checkpoints, (p.plan checkpoints).2
        = (((create settings vehicle).setMap network).plan checkpoints).2) ∧
    ((∀ network, .setMap network ∉ calls) →
      (∀ checkpoints, p.plan checkpoints = (p, ⟨[.mapNotSet], .error (.noMap .route)⟩)) ∧
      ∀ goal preceding,
        p.checkGoal goal preceding = (p, ⟨[], .error (.noMap .goalCheck)⟩)) ∧
    (p.state = .ready → ∀ checkpoints, checkpoints.length < 2 →
      p.plan checkpoints = (p, ⟨[], .error (.tooFewCheckpoints checkpoints.length)⟩)) ∧
    (∀ call, (p.perform call).1.route = call.routeAfter p.route) ∧
    (∀ call, (p.perform call).1.lastResult ≠ p.lastResult → ∃ checkpoints route,
      call = .plan checkpoints ∧ (p.perform call).2.result = .ok (.route route)) ∧
    (∀ others, lastNetwork? others = lastNetwork? calls → ∀ checkpoints,
      let q := (create settings vehicle).run others
      (p.plan checkpoints).2 = (q.plan checkpoints).2 ∧
        ∀ route, (p.plan checkpoints).2.result = .ok route →
          (p.plan checkpoints).1.lastResult = (q.plan checkpoints).1.lastResult) := by
  intro p
  have hp : Rests (settings.map .ok) vehicle (lastNetwork? calls) p :=
    rests_create settings vehicle calls
  refine ⟨hp.idle_or_ready, ?_, ?_, ?_, ?_, p.route_perform, ?_, ?_⟩
  · rw [hp.state_eq_ready_iff, Ne, lastNetwork?_eq_none_iff]
    simp
  · intro network hnetwork
    rw [hnetwork] at hp
    obtain ⟨memory, hloaded⟩ := hp.loaded_of_some
    refine ⟨memory, hloaded, fun goal preceding => ?_, fun checkpoints => ?_⟩
    · simp only [checkGoal, hloaded]
      rfl
    · exact (hp.plan_congr (rests_create settings vehicle [.setMap network]) checkpoints).1
  · intro hnone
    rw [lastNetwork?_eq_none_iff.2 hnone] at hp
    exact ⟨plan_of_unloaded hp.loaded_of_none, checkGoal_of_unloaded hp.loaded_of_none⟩
  · intro hready checkpoints hfew
    obtain ⟨network, hnetwork⟩ := Option.ne_none_iff_exists'.1 (hp.state_eq_ready_iff.1 hready)
    rw [hnetwork] at hp
    obtain ⟨memory, hloaded⟩ := hp.loaded_of_some
    exact plan_of_few hloaded hfew
  · intro call hchanged
    exact (p.lastResult_perform call).resolve_left hchanged
  · intro others hothers checkpoints
    exact hp.plan_congr (hothers ▸ rests_create settings vehicle others) checkpoints

end LaneRoute.Planner
