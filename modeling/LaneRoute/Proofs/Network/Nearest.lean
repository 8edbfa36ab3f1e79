import LaneRoute.Proofs.Geometry.Distances
import LaneRoute.Proofs.Network.Acceptance
import LaneRoute.Network.Checkpoint

/-!
# Nearest segments

What the searches for near segments choose from: the closest segment is one of those given, and
the visit by growing distance records roads only.
-/

set_option autoImplicit false

namespace LaneRoute.RoadNetwork

open Scalar

variable {α : Type} [Sided α]

theorem closer_eq_some {best : Option (Candidate α)} {c d : Candidate α}
    (h : closer best c = some d) : best = some d ∨ c = d := by
  unfold closer at h
  split at h
  · split at h
    · exact Or.inr (Option.some.inj h)
    · cases h
  · split at h
    · exact Or.inl h
    · split at h
      · exact Or.inr (Option.some.inj h)
      · exact Or.inl h

theorem closest?_mem {segments : List (Segment α)} {p : Pose α} {s : Segment α}
    (h : closest? segments p = some s) : s ∈ segments := by
  obtain ⟨c, hc, rfl⟩ := Option.map_eq_some_iff.1 h
  have hmem : ∀ (rest : List (Segment α)) (best : Option (Candidate α)),
      rest.foldl (fun best s => closer best (candidate p s)) best = some c →
      best = some c ∨ c.segment ∈ rest := by
    intro rest
    induction rest with
    | nil => exact fun best hbest => Or.inl hbest
    | cons s rest ih =>
      intro best hbest
      rcases ih _ hbest with hcloser | hrest
      · rcases closer_eq_some hcloser with hold | rfl
        · exact Or.inl hold
        · exact Or.inr (List.mem_cons_self)
      · exact Or.inr (List.mem_cons_of_mem s hrest)
  exact (hmem segments none hc).resolve_left (by simp)

theorem closest?_singleton {s : Segment α} {p : Pose α}
    (hzero : Scalar.isBounded (0 : α) = true) (hs : s.outline.contains p.point = true) :
    closest? [s] p = some s := by
  have hdistance : s.outline.distance p.point = 0 := if_pos hs
  simp [closest?, closer, candidate, hdistance, hzero]

theorem mem_roadsAt {net : RoadNetwork α} {p : Point α} {s : Segment α} :
    s ∈ net.roadsAt p ↔ s ∈ net.roads ∧ s.outline.contains p = true := by
  simp only [roadsAt, segmentsAt, roads, List.mem_filter]
  exact and_right_comm

/-! ## Visits -/

theorem perm_byBoxDistance (net : RoadNetwork α) (p : Point α) :
    (net.byBoxDistance p).Perm (net.segments.map fun s => (boxDistance p s, s)) :=
  List.mergeSort_perm _ _

omit [Sided α] in
theorem visitUntil_keeps {σ : Type} {visit : σ → α → Segment α → σ × Bool} {P : σ → Prop}
    {segments : List (α × Segment α)}
    (hvisit : ∀ b ∈ segments, ∀ state, P state → P (visit state b.1 b.2).1) {state : σ}
    (h : P state) : P (visitUntil visit state segments).1 := by
  induction segments generalizing state with
  | nil => exact h
  | cons b rest ih =>
    have hstep := hvisit b (by simp) state h
    rw [visitUntil]
    split
    next next stop hnext =>
      rw [hnext] at hstep
      split
      · exact hstep
      · exact ih (fun c hc => hvisit c (by simp [hc])) hstep

theorem nearestRoadVisit_eq_some {p : Point α} {best : Nearest α} {boxDistance : α}
    {s : Segment α} {b : Segment α × α}
    (h : (nearestRoadVisit p best boxDistance s).1 = some b) :
    best = some b ∨ (b.1 = s ∧ s.isRoad = true) := by
  unfold nearestRoadVisit at h
  split at h
  · exact Or.inl h
  · rcases ite_eq_iff.1 h with ⟨hcond, hb⟩ | ⟨-, hb⟩
    · cases hb
      exact Or.inr ⟨rfl, (Bool.and_eq_true_iff.1 hcond).1⟩
    · exact Or.inl hb

theorem nearestRoad?_mem {net : RoadNetwork α} {p : Point α} {s : Segment α}
    (h : net.nearestRoad? p = some s) : s ∈ net.roads := by
  obtain ⟨best, hbest, rfl⟩ := Option.map_eq_some_iff.1 h
  refine visitUntil_keeps (P := fun nearest : Nearest α => ∀ b, nearest = some b → b.1 ∈ net.roads)
    (fun c hc nearest hnearest b hb => ?_) (by simp) best hbest
  rcases nearestRoadVisit_eq_some hb with hold | ⟨heq, hroad⟩
  · exact hnearest b hold
  · obtain ⟨s, hs, rfl⟩ := List.mem_map.1 ((List.mergeSort_perm _ _).subset hc)
    exact heq ▸ List.mem_filter.2 ⟨hs, hroad⟩

/-! ## Loops that keep the least -/

/-- A loop that keeps one of the things that it has seen, none with a greater key, and that always
has one once it has had one. -/
structure KeepsLeast {γ : Type} (step : Option γ → γ → Option γ) (key : γ → α) (kind : γ → Prop) :
    Prop where
  chooses : ∀ {best c d}, step best c = some d → best = some d ∨ c = d
  goesOn : ∀ b c, (step (some b) c).isSome = true
  least : ∀ {best c d}, (∀ b ∈ best, kind b) → kind c → step best c = some d →
    (∀ b ∈ best, key d ≤ key b) ∧ key d ≤ key c

namespace KeepsLeast

variable {γ : Type} {step : Option γ → γ → Option γ} {key : γ → α} {kind : γ → Prop}
  (hstep : KeepsLeast step key kind) {cs : List γ} {best : Option γ} {c : γ}

include hstep

theorem mem_of_foldl (h : cs.foldl step best = some c) : best = some c ∨ c ∈ cs := by
  induction cs generalizing best with
  | nil => exact Or.inl h
  | cons d cs ih =>
    rcases ih h with hnext | hmem
    · rcases hstep.chooses hnext with hold | rfl
      · exact Or.inl hold
      · exact Or.inr List.mem_cons_self
    · exact Or.inr (List.mem_cons_of_mem d hmem)

theorem isSome_foldl (h : best.isSome = true ∨ ∃ d ∈ cs, (step none d).isSome = true) :
    (cs.foldl step best).isSome = true := by
  induction cs generalizing best with
  | nil => exact h.resolve_right (by simp)
  | cons d cs ih =>
    apply ih
    cases best with
    | some b => exact Or.inl (hstep.goesOn b d)
    | none =>
      obtain ⟨e, he, hsome⟩ := h.resolve_left (by simp)
      rcases List.mem_cons.1 he with rfl | he
      · exact Or.inl hsome
      · exact Or.inr ⟨e, he, hsome⟩

theorem le_of_foldl [OrderedNumbers α] (hcs : ∀ d ∈ cs, kind d) (hbest : ∀ b ∈ best, kind b)
    (hnumber : ∀ d, kind d → isNumber (key d) = true) (h : cs.foldl step best = some c) :
    (∀ b ∈ best, key c ≤ key b) ∧ ∀ d ∈ cs, (step none d).isSome = true → key c ≤ key d := by
  induction cs generalizing best with
  | nil =>
    subst h
    exact ⟨fun b hb => Option.some.inj hb ▸ of_decide_eq_true (hnumber c (hbest c rfl)), by simp⟩
  | cons d cs ih =>
    obtain ⟨hd, hcs⟩ := List.forall_mem_cons.1 hcs
    have hnext : ∀ e ∈ step best d, kind e := by
      intro e he
      rcases hstep.chooses he with hold | rfl
      · exact hbest e hold
      · exact hd
    obtain ⟨hleast, hlater⟩ := ih hcs hnext h
    -- what the step keeps is no greater than what it chose from
    have hpassed : (step best d).isSome = true → (∀ b ∈ best, key c ≤ key b) ∧ key c ≤ key d := by
      intro hsome
      obtain ⟨e, he⟩ := Option.isSome_iff_exists.1 hsome
      obtain ⟨hold, hnew⟩ := hstep.least hbest hd he
      exact ⟨fun b hb => OrderedNumbers.le_trans _ _ _ (hleast e he) (hold b hb),
        OrderedNumbers.le_trans _ _ _ (hleast e he) hnew⟩
    cases best with
    | none => exact ⟨by simp, List.forall_mem_cons.2 ⟨fun hsome => (hpassed hsome).2, hlater⟩⟩
    | some b =>
      obtain ⟨hold, hnew⟩ := hpassed (hstep.goesOn b d)
      exact ⟨hold, List.forall_mem_cons.2 ⟨fun _ => hnew, hlater⟩⟩

end KeepsLeast

/-! ## Least candidates -/

/-- A candidate that is at a finite distance or turned by a finite angle. -/
def Candidate.Bounded (c : Candidate α) : Prop :=
  isBounded c.distance = true ∨ isBounded c.angle = true

theorem isSome_closer_iff {c : Candidate α} : (closer none c).isSome = true ↔ c.Bounded := by
  rw [closer, Candidate.Bounded, ← Bool.or_eq_true]
  cases isBounded c.distance || isBounded c.angle <;> simp

theorem isSome_closer (b c : Candidate α) : (closer (some b) c).isSome = true := by
  unfold closer
  dsimp only
  split_ifs <;> rfl

theorem firstLeast_eq_some {best : Option (Candidate α)} {c d : Candidate α}
    (h : firstLeast best c = some d) : best = some d ∨ c = d := by
  unfold firstLeast at h
  split at h
  · exact Or.inr (Option.some.inj h)
  · split at h
    · exact Or.inr (Option.some.inj h)
    · exact Or.inl h

section Ordered

variable [OrderedNumbers α]

theorem closer_keepsLeast :
    KeepsLeast (closer (α := α)) (·.distance) fun c => isNumber c.distance = true where
  chooses := closer_eq_some
  goesOn := isSome_closer
  least {best c d} hbest hc h := by
    cases best with
    | none =>
      obtain rfl : c = d := (closer_eq_some h).resolve_left (by simp)
      exact ⟨by simp, of_decide_eq_true hc⟩
    | some b =>
      have hb : isNumber b.distance = true := hbest b rfl
      suffices d.distance ≤ b.distance ∧ d.distance ≤ c.distance from ⟨by simpa using this.1, this.2⟩
      simp only [closer, Bool.or_eq_true, decide_eq_true_eq] at h
      split_ifs at h with hfar hnear <;> obtain rfl := Option.some.inj h
      · exact ⟨of_decide_eq_true hb, OrderedNumbers.le_of_lt hfar⟩
      · exact ⟨(OrderedNumbers.not_lt_iff hc hb).1 hfar, of_decide_eq_true hc⟩
      · exact ⟨of_decide_eq_true hb, (OrderedNumbers.not_lt_iff hb hc).1 (not_or.1 hnear).1⟩

theorem closer_keepsLeast_angle :
    KeepsLeast (closer (α := α)) (·.angle) fun c => c.distance = 0 ∧ isNumber c.angle = true where
  chooses := closer_eq_some
  goesOn := isSome_closer
  least {best c d} hbest hc h := by
    cases best with
    | none =>
      obtain rfl : c = d := (closer_eq_some h).resolve_left (by simp)
      exact ⟨by simp, of_decide_eq_true hc.2⟩
    | some b =>
      obtain ⟨hzero, hb⟩ := hbest b rfl
      have hlt : ¬ (0 : α) < 0 := OrderedNumbers.lt_irrefl 0
      suffices d.angle ≤ b.angle ∧ d.angle ≤ c.angle from ⟨by simpa using this.1, this.2⟩
      simp only [closer, hzero, hc.1, Bool.or_eq_true, decide_eq_true_eq, hlt, if_false,
        false_or] at h
      split_ifs at h with hless <;> obtain rfl := Option.some.inj h
      · exact ⟨OrderedNumbers.le_of_lt hless, of_decide_eq_true hc.2⟩
      · exact ⟨of_decide_eq_true hb, (OrderedNumbers.not_lt_iff hb hc.2).1 hless⟩

theorem firstLeast_keepsLeast :
    KeepsLeast (firstLeast (α := α)) (·.distance) fun c => isNumber c.distance = true where
  chooses := firstLeast_eq_some
  goesOn b c := by
    unfold firstLeast
    dsimp only
    split_ifs <;> rfl
  least {best c d} hbest hc h := by
    cases best with
    | none =>
      obtain rfl := Option.some.inj h
      exact ⟨by simp, of_decide_eq_true hc⟩
    | some b =>
      have hb : isNumber b.distance = true := hbest b rfl
      suffices d.distance ≤ b.distance ∧ d.distance ≤ c.distance from ⟨by simpa using this.1, this.2⟩
      unfold firstLeast at h
      dsimp only at h
      split_ifs at h with hbefore <;> obtain rfl := Option.some.inj h
      · rcases OrderedNumbers.precedes_iff_lt_or.1 hbefore with hlt | ⟨hlevel, -⟩
        · exact ⟨OrderedNumbers.le_of_lt hlt, of_decide_eq_true hc⟩
        · exact ⟨hlevel.1, of_decide_eq_true hc⟩
      · have hlt : ¬ c.distance < b.distance := fun hlt =>
          hbefore (OrderedNumbers.precedes_iff_lt_or.2 (Or.inl hlt))
        exact ⟨of_decide_eq_true hb, (OrderedNumbers.not_lt_iff hb hc).1 hlt⟩

end Ordered

/-! ## What the searches find -/

section Searches

variable {segments : List (Segment α)} {p : Pose α} {maxDistance maxAngle : Option α}
  {s t : Segment α}

theorem KeepsLeast.eq_candidate {step : Option (Candidate α) → Candidate α → Option (Candidate α)}
    {key : Candidate α → α} {kind : Candidate α → Prop} (hstep : KeepsLeast step key kind)
    (h : ((segments.map (candidate p)).foldl step none).map (·.segment) = some s) :
    s ∈ segments ∧ (segments.map (candidate p)).foldl step none = some (candidate p s) := by
  obtain ⟨c, hc, rfl⟩ := Option.map_eq_some_iff.1 h
  obtain ⟨s, hs, rfl⟩ := List.mem_map.1 ((hstep.mem_of_foldl hc).resolve_left (by simp))
  exact ⟨hs, hc⟩

theorem closest?_eq_foldl (segments : List (Segment α)) (p : Pose α) :
    closest? segments p = ((segments.map (candidate p)).foldl closer none).map (·.segment) := by
  rw [closest?, List.foldl_map]

theorem closestWithin?_eq_foldl_filter (segments : List (Segment α)) (p : Pose α)
    (maxDistance maxAngle : Option α) :
    closestWithin? segments p maxDistance maxAngle =
      (((segments.filter fun s => (candidate p s).admits maxDistance maxAngle).map
        (candidate p)).foldl firstLeast none).map (·.segment) := by
  rw [closestWithin?, List.filter_map]
  rfl

section Ordered

variable [OrderedNumbers α]

theorem closestWithin?_mem (h : closestWithin? segments p maxDistance maxAngle = some s) :
    s ∈ segments ∧ (candidate p s).admits maxDistance maxAngle = true := by
  rw [closestWithin?_eq_foldl_filter] at h
  exact List.mem_filter.1 (firstLeast_keepsLeast.eq_candidate h).1

theorem closestWithin?_eq_none_iff :
    closestWithin? segments p maxDistance maxAngle = none ↔
      ∀ s ∈ segments, (candidate p s).admits maxDistance maxAngle = false := by
  rw [closestWithin?_eq_foldl_filter, Option.map_eq_none_iff]
  constructor
  · intro hnone s hs
    by_contra hadmits
    have hmem : candidate p s ∈ (segments.filter fun s =>
        (candidate p s).admits maxDistance maxAngle).map (candidate p) :=
      List.mem_map_of_mem (List.mem_filter.2 ⟨hs, by simpa using hadmits⟩)
    rw [← Option.not_isSome_iff_eq_none] at hnone
    exact hnone (firstLeast_keepsLeast.isSome_foldl (Or.inr ⟨_, hmem, rfl⟩))
  · intro hnone
    rw [List.filter_eq_nil_iff.2 (by simpa using hnone)]
    rfl

theorem isNumber_candidate (segments : List (Segment α)) (p : Pose α) :
    ∀ c ∈ segments.map (candidate p), isNumber c.distance = true := by
  intro c hc
  obtain ⟨s, -, rfl⟩ := List.mem_map.1 hc
  exact Ring.isNumber_distance s.outline p.point

theorem exists_closest (ht : t ∈ segments) (hbounded : (candidate p t).Bounded) :
    ∃ s, closest? segments p = some s := by
  rw [closest?_eq_foldl, ← Option.isSome_iff_exists, Option.isSome_map]
  apply closer_keepsLeast.isSome_foldl
  exact Or.inr ⟨candidate p t, List.mem_map_of_mem ht, isSome_closer_iff.2 hbounded⟩

theorem closest?_distance_le (h : closest? segments p = some s) (ht : t ∈ segments)
    (hbounded : (candidate p t).Bounded) :
    s.outline.distance p.point ≤ t.outline.distance p.point := by
  rw [closest?_eq_foldl] at h
  obtain ⟨-, hfold⟩ := closer_keepsLeast.eq_candidate h
  obtain ⟨-, hleast⟩ :=
    closer_keepsLeast.le_of_foldl (isNumber_candidate segments p) (by simp) (fun _ h => h) hfold
  exact hleast _ (List.mem_map_of_mem ht) (isSome_closer_iff.2 hbounded)

theorem closestWithin?_distance_le (h : closestWithin? segments p maxDistance maxAngle = some s)
    (ht : t ∈ segments) (hadmits : (candidate p t).admits maxDistance maxAngle = true) :
    s.outline.distance p.point ≤ t.outline.distance p.point := by
  rw [closestWithin?_eq_foldl_filter] at h
  obtain ⟨-, hfold⟩ := firstLeast_keepsLeast.eq_candidate h
  obtain ⟨-, hleast⟩ :=
    firstLeast_keepsLeast.le_of_foldl (isNumber_candidate _ p) (by simp) (fun _ h => h) hfold
  exact hleast _ (List.mem_map_of_mem (List.mem_filter.2 ⟨ht, hadmits⟩)) rfl

theorem closest?_angle_le (hat : ∀ t ∈ segments, t.outline.contains p.point = true)
    (hangle : ∀ t ∈ segments, isNumber (candidate p t).angle = true)
    (hzero : isBounded (0 : α) = true) (h : closest? segments p = some s) (ht : t ∈ segments) :
    (candidate p s).angle ≤ (candidate p t).angle := by
  have hdistance : ∀ t ∈ segments, (candidate p t).distance = 0 :=
    fun t ht => Ring.distance_of_contains (hat t ht)
  rw [closest?_eq_foldl] at h
  obtain ⟨-, hfold⟩ := closer_keepsLeast.eq_candidate h
  obtain ⟨-, hleast⟩ := closer_keepsLeast_angle.le_of_foldl
    (by simpa using fun t ht => ⟨hdistance t ht, hangle t ht⟩) (by simp) (fun _ h => h.2) hfold
  refine hleast _ (List.mem_map_of_mem ht) (isSome_closer_iff.2 (Or.inl ?_))
  rw [hdistance t ht]
  exact hzero

end Ordered

end Searches

theorem exists_roadAt_of_mem_goalCandidates {net : RoadNetwork α} {p : Pose α} {id : Int}
    (h : id ∈ net.goalCandidates p) (hroads : net.roadsAt p.point ≠ []) :
    ∃ s ∈ net.roadsAt p.point, s.id = id := by
  have hsome : (!(net.roadsAt p.point).isEmpty) = true := by simpa using hroads
  simp only [goalCandidates] at h
  rw [if_pos hsome] at h
  exact List.mem_map.1 h

end LaneRoute.RoadNetwork
