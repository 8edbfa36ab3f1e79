import LaneRoute.Proofs.Network.Nearest
import LaneRoute.Proofs.Number.Ordered

/-!
# The closest segment

Two searches for the segment that is closest to a pose: one goes over the segments once with the
closest one so far, the other takes the least of those that keep to some limits. Each finds the
first least segment of its order. The second order breaks the ties of the first one by ids, so
on segments with ascending ids and without limits both find the same.
-/

set_option autoImplicit false

namespace LaneRoute.RoadNetwork

open Scalar

variable {α : Type} [Sided α]

namespace Candidate

def Measured (c : Candidate α) : Prop := isFinite c.distance = true ∧ isFinite c.angle = true

/-- A candidate that is no farther and no more askew than the limits that are given. -/
def Within (c : Candidate α) (maxDistance maxAngle : Option α) : Prop :=
  (∀ m ∈ maxDistance, c.distance ≤ m) ∧ ∀ m ∈ maxAngle, c.angle ≤ magnitude m

instance (c : Candidate α) (maxDistance maxAngle : Option α) :
    Decidable (c.Within maxDistance maxAngle) :=
  inferInstanceAs (Decidable ((∀ m ∈ maxDistance, c.distance ≤ m) ∧
    ∀ m ∈ maxAngle, c.angle ≤ magnitude m))

def nearer (c d : Candidate α) : Bool :=
  precedes c.distance d.distance (decide (c.angle < d.angle))

end Candidate

def nearer (p : Pose α) (s t : Segment α) : Bool := (candidate p s).nearer (candidate p t)

def nearerThenLower (p : Pose α) (s t : Segment α) : Bool :=
  (candidate p s).before (candidate p t)

section Ordered

variable [OrderedNumbers α]

/-! ## Orders of candidates -/

theorem weakOrder_nearer :
    WeakOrder (Candidate.nearer (α := α)) Candidate.Measured :=
  OrderedNumbers.weakOrder_precedes
    (fun _ h => OrderedNumbers.isNumber_of_isFinite h.1)
    (OrderedNumbers.weakOrder_lt fun _ h => OrderedNumbers.isNumber_of_isFinite h.2)

theorem weakOrder_before :
    WeakOrder (Candidate.before (α := α)) Candidate.Measured :=
  OrderedNumbers.weakOrder_precedes
    (fun _ h => OrderedNumbers.isNumber_of_isFinite h.1)
    (OrderedNumbers.weakOrder_precedes
      (fun _ h => OrderedNumbers.isNumber_of_isFinite h.2)
      (weakOrder_of_key (fun c : Candidate α => c.segment.id) _))

theorem before_eq_nearer {c d : Candidate α} (h : ¬ c.segment.id < d.segment.id) :
    c.before d = c.nearer d := by
  have htie : precedes c.angle d.angle (decide (c.segment.id < d.segment.id)) =
      decide (c.angle < d.angle) := by
    rw [Bool.eq_iff_iff, OrderedNumbers.precedes_iff_lt_or]
    simp [h]
  rw [Candidate.before, htie, Candidate.nearer]

/-- The test of the loop, which leaves out what is farther before it looks at angles. -/
theorem closer_eq_argAux_nearer {best : Option (Candidate α)} {c : Candidate α}
    (hbest : ∀ b ∈ best, b.Measured) (hc : c.Measured) :
    closer best c = List.argAux (fun c d => Candidate.nearer c d = true) best c := by
  cases best with
  | none =>
    have hbounded := (Bool.and_eq_true_iff.1 hc.1).1
    simp [closer, List.argAux, hbounded]
  | some b =>
    have hb := OrderedNumbers.isNumber_of_isFinite (hbest b rfl).1
    have hnumber := OrderedNumbers.isNumber_of_isFinite hc.1
    have hiff : c.nearer b = true ↔
        ¬ b.distance < c.distance ∧ (c.distance < b.distance ∨ c.angle < b.angle) := by
      rw [Candidate.nearer, OrderedNumbers.precedes_iff_lt_or, decide_eq_true_iff,
        OrderedNumbers.not_lt_iff hnumber hb]
      constructor
      · rintro (hlt | ⟨hlevel, hlt⟩)
        · exact ⟨((OrderedNumbers.lt_iff _ _).1 hlt).1, Or.inl hlt⟩
        · exact ⟨hlevel.1, Or.inr hlt⟩
      · rintro ⟨hle, hlt | hlt⟩
        · exact Or.inl hlt
        · by_cases hback : b.distance ≤ c.distance
          · exact Or.inr ⟨⟨hle, hback⟩, hlt⟩
          · exact Or.inl ((OrderedNumbers.lt_iff _ _).2 ⟨hle, hback⟩)
    by_cases hfar : b.distance < c.distance
    · simp [closer, List.argAux, hiff, hfar]
    · simp [closer, List.argAux, hiff, hfar]

theorem foldl_closer {cs : List (Candidate α)} (hcs : ∀ c ∈ cs, c.Measured)
    {best : Option (Candidate α)} (hbest : ∀ b ∈ best, b.Measured) :
    cs.foldl closer best =
      cs.foldl (List.argAux fun c d => Candidate.nearer c d = true) best := by
  induction cs generalizing best with
  | nil => rfl
  | cons c cs ih =>
    have hc := hcs c (by simp)
    rw [List.foldl_cons, List.foldl_cons, ← closer_eq_argAux_nearer hbest hc]
    apply ih fun d hd => hcs d (by simp [hd])
    intro b hb
    rcases closer_eq_some hb with hold | rfl
    · exact hbest b hold
    · exact hc

/-! ## What the searches find -/

variable {segments : List (Segment α)} {p : Pose α}

omit [OrderedNumbers α] in
theorem foldl_segments_eq_some_iff {before : Candidate α → Candidate α → Bool}
    (ho : WeakOrder before Candidate.Measured) (h : ∀ s ∈ segments, (candidate p s).Measured)
    {s : Segment α} :
    ((segments.map (candidate p)).foldl (List.argAux fun c d => before c d = true) none).map
        (·.segment) = some s ↔
      IsFirstLeast (fun s t => before (candidate p s) (candidate p t)) segments s := by
  have hkind : ∀ c ∈ segments.map (candidate p), c.Measured := by simpa using h
  rw [Option.map_eq_some_iff]
  constructor
  · rintro ⟨c, hc, rfl⟩
    obtain ⟨t, rfl, ht⟩ := isFirstLeast_map.1 ((ho.foldl_eq_some_iff hkind).1 hc)
    exact ht
  · intro hs
    exact ⟨candidate p s, (ho.foldl_eq_some_iff hkind).2 (isFirstLeast_map.2 ⟨s, rfl, hs⟩), rfl⟩

theorem closest?_eq_some_iff (h : ∀ s ∈ segments, (candidate p s).Measured) {s : Segment α} :
    closest? segments p = some s ↔ IsFirstLeast (nearer p) segments s := by
  have hcs : ∀ c ∈ segments.map (candidate p), c.Measured := by simpa using h
  rw [closest?, ← List.foldl_map, foldl_closer hcs (by simp),
    foldl_segments_eq_some_iff weakOrder_nearer h]
  rfl

theorem closest?_eq_none_iff (h : ∀ s ∈ segments, (candidate p s).Measured) :
    closest? segments p = none ↔ segments = [] := by
  have hcs : ∀ c ∈ segments.map (candidate p), c.Measured := by simpa using h
  rw [closest?, ← List.foldl_map, foldl_closer hcs (by simp), Option.map_eq_none_iff,
    List.foldl_argAux_eq_none]
  simp

omit [OrderedNumbers α] in
theorem closestWithin?_eq_foldl (maxDistance maxAngle : Option α) :
    closestWithin? segments p maxDistance maxAngle =
      (((segments.filter fun s => (candidate p s).admits maxDistance maxAngle).map
        (candidate p)).foldl (List.argAux fun c d => Candidate.before c d = true) none).map
          (·.segment) := by
  have hstep : firstLeast (α := α) = List.argAux fun c d => Candidate.before c d = true := by
    funext best c
    cases best <;> rfl
  rw [closestWithin?, hstep, List.filter_map]
  rfl

theorem admits_iff_within {c : Candidate α} {maxDistance maxAngle : Option α} (hc : c.Measured)
    (hdistance : ∀ m ∈ maxDistance, isNumber m = true)
    (hangle : ∀ m ∈ maxAngle, isNumber (magnitude m) = true) :
    c.admits maxDistance maxAngle = true ↔ c.Within maxDistance maxAngle := by
  have hd := OrderedNumbers.isNumber_of_isFinite hc.1
  have ha := OrderedNumbers.isNumber_of_isFinite hc.2
  rw [Candidate.admits, Bool.and_eq_true, Bool.not_eq_true', Bool.not_eq_true', Candidate.Within]
  apply and_congr
  · cases maxDistance with
    | none => simp
    | some m => simp [← OrderedNumbers.not_lt_iff hd (hdistance m rfl)]
  · cases maxAngle with
    | none => simp
    | some m => simp [← OrderedNumbers.not_lt_iff ha (hangle m rfl)]

theorem isFirstLeast_nearerThenLower_iff (h : segments.Pairwise fun s t => s.id < t.id)
    {s : Segment α} :
    IsFirstLeast (nearerThenLower p) segments s ↔ IsFirstLeast (nearer p) segments s := by
  unfold IsFirstLeast
  refine exists_congr fun earlier => exists_congr fun later => and_congr_right fun heq => ?_
  subst heq
  obtain ⟨-, hlater, hearlier⟩ := List.pairwise_append.1 h
  apply and_congr
  · refine forall₂_congr fun t ht => ?_
    have hid : t.id < s.id := hearlier t ht s (by simp)
    rw [nearerThenLower, before_eq_nearer (not_lt.2 hid.le), nearer]
  · refine forall₂_congr fun t ht => ?_
    have hid : s.id < t.id := (List.pairwise_cons.1 hlater).1 t ht
    rw [nearerThenLower, before_eq_nearer (not_lt.2 hid.le), nearer]

/-- With finite distances and angles, the closest segment is the first of those that are least
by distance and angle, and there is one in every list with a segment. With limits that are
numbers, it is the one that is least by distance, angle and id among the segments within the
limits, and there is one as soon as a segment is within. So on segments with ascending ids the
two searches find the same when no limit is given. -/
theorem closest?_firstLeast (h : ∀ s ∈ segments, (candidate p s).Measured)
    {maxDistance maxAngle : Option α} (hdistance : ∀ m ∈ maxDistance, isNumber m = true)
    (hangle : ∀ m ∈ maxAngle, isNumber (magnitude m) = true) :
    (closest? segments p = none ↔ segments = []) ∧
    (∀ s, closest? segments p = some s ↔ IsFirstLeast (nearer p) segments s) ∧
    (closestWithin? segments p maxDistance maxAngle = none ↔
      ∀ s ∈ segments, ¬ (candidate p s).Within maxDistance maxAngle) ∧
    (∀ s, closestWithin? segments p maxDistance maxAngle = some s ↔
      IsFirstLeast (nearerThenLower p)
        (segments.filter fun s => (candidate p s).Within maxDistance maxAngle) s) ∧
    ((segments.Pairwise fun s t => s.id < t.id) →
      closestWithin? segments p none none = closest? segments p) := by
  have hfilter : (segments.filter fun s => (candidate p s).admits maxDistance maxAngle) =
      segments.filter fun s => (candidate p s).Within maxDistance maxAngle := by
    apply List.filter_congr
    intro s hs
    rw [Bool.eq_iff_iff, admits_iff_within (h s hs) hdistance hangle, decide_eq_true_iff]
  refine ⟨closest?_eq_none_iff h, fun s => closest?_eq_some_iff h, ?none, ?some, ?same⟩
  case none =>
    rw [closestWithin?_eq_foldl, hfilter, Option.map_eq_none_iff, List.foldl_argAux_eq_none]
    simp [List.filter_eq_nil_iff]
  case some =>
    intro s
    have hmeasured : ∀ t ∈ segments.filter fun s => (candidate p s).Within maxDistance maxAngle,
        (candidate p t).Measured := fun t ht => h t (List.mem_filter.1 ht).1
    rw [closestWithin?_eq_foldl, hfilter, foldl_segments_eq_some_iff weakOrder_before hmeasured]
    rfl
  case same =>
    intro hids
    have hall : (segments.filter fun s => (candidate p s).admits none none) = segments := by
      rw [List.filter_eq_self]
      intro s _
      rfl
    apply Option.ext
    intro s
    rw [closestWithin?_eq_foldl, hall, foldl_segments_eq_some_iff weakOrder_before h,
      closest?_eq_some_iff h, ← isFirstLeast_nearerThenLower_iff hids]
    rfl

end Ordered

/-! ## Where two roads cross -/

def onBoth : Pose Rat := ⟨20, 0, 0, Rational.quarterTurn⟩

/-- Both roads are at the pose. The second one is the closest, with limits and without. -/
theorem crossing_closest :
    (∀ s ∈ (crossing false).segments, (candidate onBoth s).Measured) ∧
    (∀ m ∈ some (1 : Rat), isNumber m = true) ∧
    (∀ m ∈ some (-1 : Rat), isNumber (magnitude m) = true) ∧
    ∃ s, s.id = 2 ∧ closest? (crossing false).segments onBoth = some s ∧
      IsFirstLeast (nearer onBoth) (crossing false).segments s ∧
      closestWithin? (crossing false).segments onBoth none none = some s ∧
      closestWithin? (crossing false).segments onBoth (some 1) (some (-1)) ≠ none := by
  have hmeasured : ∀ s ∈ (crossing false).segments, (candidate onBoth s).Measured :=
    fun _ _ => ⟨rfl, rfl⟩
  have hdistance : ∀ m ∈ some (1 : Rat), isNumber m = true := fun m _ => ExactSums.isNumber m
  have hangle : ∀ m ∈ some (-1 : Rat), isNumber (magnitude m) = true :=
    fun m _ => ExactSums.isNumber (magnitude m)
  obtain ⟨-, hclosest, hnone, -, hsame⟩ := closest?_firstLeast hmeasured hdistance hangle
  have hids : (crossing false).segments.Pairwise fun s t => s.id < t.id := by decide +kernel
  have hid : (closest? (crossing false).segments onBoth).map (·.id) = some 2 := by decide +kernel
  obtain ⟨s, hs, hid⟩ := Option.map_eq_some_iff.1 hid
  refine ⟨hmeasured, hdistance, hangle, s, hid, hs, (hclosest s).1 hs, (hsame hids).trans hs, ?_⟩
  have hwithin : ∃ s ∈ (crossing false).segments,
      (candidate onBoth s).Within (some 1) (some (-1)) := by decide +kernel
  rw [Ne, hnone]
  simpa using hwithin

end LaneRoute.RoadNetwork
