import LaneRoute.Proofs.Geometry.Boxes
import LaneRoute.Proofs.Network.Visits
import LaneRoute.Proofs.Number.Doubles
import LaneRoute.Geometry.Slab

/-!
# The nearest road

The visit of segments by the distances of their rectangles ends with the road that comes first by
distance, by the distance of its rectangle and by id, or with one that comes behind roads whose
rectangles are farther away than it is. No rectangle is farther away than what lies in it, so that
in exact arithmetic there are no such roads. Doubles have them by a last digit, and a road at a
distance that overflows is not found at all.
-/

set_option autoImplicit false

namespace LaneRoute.RoadNetwork

open Scalar

section Rounded

variable {α : Type} [Sided α] {p : Point α}

def boxKey (p : Point α) (s : Segment α) : α × Int := key (boxDistance p s, s)

/-- By distance, then by the distance of the rectangle, at last by id. -/
def comesFirst (p : Point α) (s t : Segment α) : Bool :=
  precedes (s.outline.distance p) (t.outline.distance p) (keyBefore (boxKey p s) (boxKey p t))

/-- What a visit has found: nothing as long as no road was at a finite distance, else one of the
roads. If another one comes first, its rectangle is farther away than the road found. -/
def Finds (p : Point α) (visited : List (Segment α)) : Nearest α → Prop
  | none => ∀ s ∈ visited, s.isRoad = true → isBounded (s.outline.distance p) = false
  | some b => b.1 ∈ visited ∧ b.1.isRoad = true ∧ b.2 = b.1.outline.distance p ∧
      isBounded b.2 = true ∧
      ∀ t ∈ visited, t.isRoad = true → comesFirst p t b.1 = true → b.2 < boxDistance p t

theorem Finds.of_mem_iff {visited others : List (Segment α)} {best : Nearest α}
    (h : Finds p visited best) (hiff : ∀ s, s ∈ others ↔ s ∈ visited) : Finds p others best := by
  cases best with
  | none => exact fun s hs => h s ((hiff s).1 hs)
  | some b =>
    obtain ⟨hmem, hroad, hdistance, hbounded, hfirst⟩ := h
    exact ⟨(hiff b.1).2 hmem, hroad, hdistance, hbounded, fun t ht => hfirst t ((hiff t).1 ht)⟩

variable [RoundedNumbers α]

theorem weakOrder_comesFirst (p : Point α) : WeakOrder (comesFirst p) fun _ => True :=
  OrderedNumbers.weakOrder_precedes (fun s _ => Ring.isNumber_distance s.outline p)
    (OrderedNumbers.weakOrder_precedes (fun s _ => Ring.isNumber_distance s.outline.box.ring p)
      (weakOrder_of_key (fun s : Segment α => s.id) _))

theorem le_of_comesFirst {s t : Segment α} (h : comesFirst p s t = true) :
    s.outline.distance p ≤ t.outline.distance p := by
  rcases OrderedNumbers.precedes_iff_lt_or.1 h with hlt | ⟨hlevel, -⟩
  · exact OrderedNumbers.le_of_lt hlt
  · exact hlevel.1

theorem Finds.visit {visited : List (Segment α)} {best : Nearest α} {s : Segment α}
    (h : Finds p visited best)
    (hlast : ∀ t ∈ visited, keyBefore (boxKey p s) (boxKey p t) = false) :
    Finds p (visited ++ [s]) (nearestRoadVisit p best (boxDistance p s) s).1 := by
  have ho := weakOrder_comesFirst p
  cases best with
  | none =>
    have hvisit : (nearestRoadVisit p none (boxDistance p s) s).1 =
        if s.isRoad ∧ isBounded (s.outline.distance p) then some (s, s.outline.distance p)
        else none := by
      simp [nearestRoadVisit]
    rw [hvisit]
    by_cases hchosen : s.isRoad = true ∧ isBounded (s.outline.distance p) = true
    · rw [if_pos hchosen]
      refine ⟨by simp, hchosen.1, rfl, hchosen.2, fun t ht hroad hfirst => ?_⟩
      rcases List.mem_append.1 ht with ht | ht
      · -- what comes before a finite distance is finite
        have hbounded := RoundedNumbers.isBounded_of_le _ _ (le_of_comesFirst hfirst) hchosen.2
        rw [h t ht hroad] at hbounded
        cases hbounded
      · rw [List.mem_singleton.1 ht, ho.irrefl trivial] at hfirst
        cases hfirst
    · rw [if_neg hchosen]
      intro t ht hroad
      rcases List.mem_append.1 ht with ht | ht
      · exact h t ht hroad
      · obtain rfl := List.mem_singleton.1 ht
        simpa [hroad] using hchosen
  | some b =>
    obtain ⟨hmem, hbroad, hdistance, hbounded, hfirst⟩ := h
    by_cases hfar : b.2 < boxDistance p s
    · have hvisit : (nearestRoadVisit p (some b) (boxDistance p s) s).1 = some b := by
        simp [nearestRoadVisit, hfar]
      rw [hvisit]
      refine ⟨List.mem_append_left _ hmem, hbroad, hdistance, hbounded, fun t ht hroad => ?_⟩
      rcases List.mem_append.1 ht with ht | ht
      · exact hfirst t ht hroad
      · exact fun _ => List.mem_singleton.1 ht ▸ hfar
    · have hvisit : (nearestRoadVisit p (some b) (boxDistance p s) s).1 =
          if s.isRoad ∧ s.outline.distance p < b.2 then some (s, s.outline.distance p)
          else some b := by
        simp [nearestRoadVisit, hfar]
      rw [hvisit]
      by_cases hnearer : s.isRoad = true ∧ s.outline.distance p < b.2
      · rw [if_pos hnearer]
        have hle := OrderedNumbers.le_of_lt hnearer.2
        have hbefore : comesFirst p s b.1 = true :=
          OrderedNumbers.precedes_iff_lt_or.2 (Or.inl (hdistance ▸ hnearer.2))
        refine ⟨by simp, hnearer.1, rfl, RoundedNumbers.isBounded_of_le _ _ hle hbounded, ?_⟩
        intro t ht hroad ht_first
        rcases List.mem_append.1 ht with ht | ht
        · have hboth := ho.lt_of_lt_of_le trivial trivial trivial ht_first
            (ho.asymm _ _ trivial trivial hbefore)
          exact OrderedNumbers.lt_of_lt_of_le hnearer.2
            (OrderedNumbers.le_of_lt (hfirst t ht hroad hboth))
        · rw [List.mem_singleton.1 ht, ho.irrefl trivial] at ht_first
          cases ht_first
      · rw [if_neg hnearer]
        refine ⟨List.mem_append_left _ hmem, hbroad, hdistance, hbounded, ?_⟩
        intro t ht hroad ht_first
        rcases List.mem_append.1 ht with ht | ht
        · exact hfirst t ht hroad ht_first
        · -- of equally distant roads the one visited first stays
          obtain rfl := List.mem_singleton.1 ht
          rcases OrderedNumbers.precedes_iff_lt_or.1 ht_first with hlt | ⟨-, htie⟩
          · exact absurd ⟨hroad, hdistance ▸ hlt⟩ hnearer
          · rw [hlast b.1 hmem] at htie
            cases htie

/-- When the visit stops, the rectangles to come are farther away than what was found. -/
theorem Finds.stop {visited rest : List (Segment α)} {best : Nearest α} {s : Segment α}
    (hstop : (nearestRoadVisit p best (boxDistance p s) s).2 = true)
    (h : Finds p visited (nearestRoadVisit p best (boxDistance p s) s).1)
    (hrest : ∀ t ∈ rest, boxDistance p s ≤ boxDistance p t) :
    Finds p (visited ++ rest) (nearestRoadVisit p best (boxDistance p s) s).1 := by
  cases best with
  | none => simp [nearestRoadVisit] at hstop
  | some b =>
    have hfar : b.2 < boxDistance p s := by
      by_contra hnear
      simp [nearestRoadVisit, hnear] at hstop
    have hvisit : (nearestRoadVisit p (some b) (boxDistance p s) s).1 = some b := by
      simp [nearestRoadVisit, hfar]
    rw [hvisit] at h ⊢
    obtain ⟨hmem, hroad, hdistance, hbounded, hfirst⟩ := h
    refine ⟨List.mem_append_left _ hmem, hroad, hdistance, hbounded, fun t ht htroad => ?_⟩
    rcases List.mem_append.1 ht with ht | ht
    · exact hfirst t ht htroad
    · exact fun _ => OrderedNumbers.lt_of_lt_of_le hfar (hrest t ht)

theorem Finds.visitUntil {visited : List (Segment α)} {rest : List (α × Segment α)}
    {best : Nearest α} (h : Finds p visited best)
    (hbox : ∀ b ∈ rest, b.1 = boxDistance p b.2)
    (hsorted : rest.Pairwise fun a b => keyBefore (key b) (key a) = false)
    (hlast : ∀ t ∈ visited, ∀ b ∈ rest, keyBefore (key b) (boxKey p t) = false) :
    Finds p (visited ++ rest.map Prod.snd)
      (RoadNetwork.visitUntil (nearestRoadVisit p) best rest).1 := by
  induction rest generalizing visited best with
  | nil => simpa [RoadNetwork.visitUntil] using h
  | cons b rest ih =>
    obtain ⟨d, s⟩ := b
    obtain ⟨hd, hrest⟩ := List.forall_mem_cons.1 hbox
    obtain rfl : d = boxDistance p s := hd
    obtain ⟨hnext, htail⟩ := List.pairwise_cons.1 hsorted
    have hvisited := h.visit fun t ht => hlast t ht (boxDistance p s, s) (by simp)
    rw [RoadNetwork.visitUntil]
    cases hvisit : nearestRoadVisit p best (boxDistance p s) s with
    | mk next stop =>
      cases stop with
      | true =>
        have hbehind : ∀ t ∈ rest.map Prod.snd, boxDistance p s ≤ boxDistance p t := by
          intro t ht
          obtain ⟨c, hc, rfl⟩ := List.mem_map.1 ht
          have hc_box : (key c).1 = boxDistance p c.2 := hrest c hc
          have hnumber : isNumber (key c).1 = true := hc_box ▸ Ring.isNumber_distance _ p
          obtain ⟨hle, -⟩ :=
            (keyBefore_eq_false_iff (Ring.isNumber_distance _ p) hnumber).1 (hnext c hc)
          exact hc_box ▸ hle
        have hstopped := Finds.stop (by rw [hvisit]) hvisited hbehind
        rw [hvisit] at hstopped
        simpa using hstopped
      | false =>
        rw [hvisit] at hvisited
        have hbehind : ∀ t ∈ visited ++ [s], ∀ c ∈ rest, keyBefore (key c) (boxKey p t) = false := by
          intro t ht c hc
          rcases List.mem_append.1 ht with ht | ht
          · exact hlast t ht c (by simp [hc])
          · exact List.mem_singleton.1 ht ▸ hnext c hc
        simpa using ih hvisited hrest htail hbehind

theorem finds_nearestUntil (net : RoadNetwork α) (p : Point α) :
    Finds p net.segments (net.nearestUntil p (nearestRoadVisit p) none).1 := by
  have hnone : Finds p [] none := by simp [Finds]
  have hrun := hnone.visitUntil (fun b hb => (mem_byBoxDistance_iff.1 hb).2)
    (net.keyBefore_byBoxDistance p) (by simp)
  apply hrun.of_mem_iff
  intro s
  rw [List.nil_append, ((perm_byBoxDistance net p).map Prod.snd).mem_iff, List.map_map]
  simp

theorem nearestRoad?_spec {net : RoadNetwork α} {s : Segment α} (h : net.nearestRoad? p = some s) :
    s ∈ net.roads ∧ isBounded (s.outline.distance p) = true ∧
      ∀ t ∈ net.roads, comesFirst p t s = true → s.outline.distance p < boxDistance p t := by
  have hfinds := finds_nearestUntil net p
  obtain ⟨b, hb, rfl⟩ := Option.map_eq_some_iff.1 h
  rw [hb] at hfinds
  obtain ⟨hmem, hroad, hdistance, hbounded, hfirst⟩ := hfinds
  rw [hdistance] at hbounded hfirst
  refine ⟨List.mem_filter.2 ⟨hmem, hroad⟩, hbounded, fun t ht => ?_⟩
  obtain ⟨htmem, htroad⟩ := List.mem_filter.1 ht
  exact hfirst t htmem htroad

theorem nearestRoad?_eq_none_iff {net : RoadNetwork α} :
    net.nearestRoad? p = none ↔ ∀ s ∈ net.roads, isBounded (s.outline.distance p) = false := by
  have hfinds := finds_nearestUntil net p
  constructor
  · intro hnone s hs
    rw [Option.map_eq_none_iff.1 hnone] at hfinds
    obtain ⟨hmem, hroad⟩ := List.mem_filter.1 hs
    exact hfinds s hmem hroad
  · intro hfar
    by_contra hfound
    obtain ⟨s, hs⟩ := Option.ne_none_iff_exists'.1 hfound
    obtain ⟨hroad, hbounded, -⟩ := nearestRoad?_spec hs
    rw [hfar s hroad] at hbounded
    cases hbounded

theorem comesFirst_eq_false_iff {s t : Segment α} :
    comesFirst p t s = false ↔ s.outline.distance p ≤ t.outline.distance p ∧
      (t.outline.distance p ≤ s.outline.distance p →
        keyBefore (boxKey p t) (boxKey p s) = false) := by
  rw [← Bool.not_eq_true, comesFirst, OrderedNumbers.precedes_iff_lt_or, not_or,
    OrderedNumbers.not_lt_iff (Ring.isNumber_distance _ p) (Ring.isNumber_distance _ p)]
  refine and_congr_right fun hle => ?_
  rw [not_and, Bool.not_eq_true]
  exact ⟨fun h hback => h ⟨hback, hle⟩, fun h hlevel => h hlevel.1⟩

theorem Accepted.eq_of_comesFirst {net : RoadNetwork α} (ha : net.Accepted) {s t : Segment α}
    (hs : s ∈ net.segments) (ht : t ∈ net.segments) (hst : comesFirst p s t = false)
    (hts : comesFirst p t s = false) : s = t := by
  obtain ⟨hle, htie⟩ := comesFirst_eq_false_iff.1 hst
  obtain ⟨hge, htie'⟩ := comesFirst_eq_false_iff.1 hts
  have hid : s.id = t.id := eq_of_keyBefore (Ring.isNumber_distance _ p) (Ring.isNumber_distance _ p)
    (htie hge) (htie' hle)
  exact List.inj_on_of_nodup_map ha.nodup_ids hs ht hid

theorem nearestRoad?_eq_some_iff {net : RoadNetwork α} (ha : net.Accepted)
    (hbox : ∀ s ∈ net.roads, boxDistance p s ≤ s.outline.distance p) {s : Segment α} :
    net.nearestRoad? p = some s ↔ s ∈ net.roads ∧ isBounded (s.outline.distance p) = true ∧
      ∀ t ∈ net.roads, comesFirst p t s = false := by
  have hfirst : ∀ {s}, net.nearestRoad? p = some s → s ∈ net.roads ∧
      isBounded (s.outline.distance p) = true ∧ ∀ t ∈ net.roads, comesFirst p t s = false := by
    intro s hs
    obtain ⟨hroad, hbounded, hfirst⟩ := nearestRoad?_spec hs
    refine ⟨hroad, hbounded, fun t ht => ?_⟩
    by_contra hbefore
    rw [Bool.not_eq_false] at hbefore
    have hfar := OrderedNumbers.lt_of_lt_of_le (hfirst t ht hbefore) (hbox t ht)
    exact ((OrderedNumbers.lt_iff _ _).1 hfar).2 (le_of_comesFirst hbefore)
  refine ⟨hfirst, ?_⟩
  rintro ⟨hroad, hbounded, hleast⟩
  cases hfound : net.nearestRoad? p with
  | none =>
    rw [nearestRoad?_eq_none_iff.1 hfound s hroad] at hbounded
    cases hbounded
  | some t =>
    obtain ⟨htroad, -, htleast⟩ := hfirst hfound
    have hmem := (List.mem_filter.1 hroad).1
    have htmem := (List.mem_filter.1 htroad).1
    rw [ha.eq_of_comesFirst hmem htmem (htleast s hroad) (hleast t htroad)]

end Rounded

/-! ## In the plane -/

/-- A segment with a point on one of its bounds. -/
def Drawn {α : Type} (s : Segment α) : Prop :=
  Segment.outlinePoints s.leftBound s.rightBound ≠ []

theorem edges_through {points : List (Point ℝ)} (h : points ≠ []) :
    (Ring.through points).edges ≠ [] := by
  obtain ⟨p, rest, rfl⟩ := List.exists_cons_of_ne_nil h
  cases rest with
  | nil => simp [Ring.through, Ring.edges, Ring.pairsFrom]
  | cons q rest =>
    simp only [Ring.through]
    split
    · simp [Ring.edges, Ring.pairsFrom]
    · simp [Ring.edges, Ring.pairsFrom]

theorem boxDistance_le {s : Segment ℝ} (h : Drawn s) (p : Point ℝ) :
    boxDistance p s ≤ s.outline.distance p :=
  Ring.distance_box_le (edges_through h) p

/-- Nothing is found exactly when no road is at a finite distance. A road that is found is at a
finite distance, and the rectangle of a road that comes before it, by distance, by the distance of
its rectangle and by id, is farther away than it. So it is the first of all roads where no
rectangle is farther away than its road. In the plane none ever is, and only a map without any
road has no nearest one. -/
theorem nearestRoad?_isLeast {α : Type} [Sided α] [RoundedNumbers α] {net : RoadNetwork α}
    (ha : net.Accepted) (p : Point α) :
    (net.nearestRoad? p = none ↔ ∀ s ∈ net.roads, isBounded (s.outline.distance p) = false) ∧
    (∀ s, net.nearestRoad? p = some s →
      s ∈ net.roads ∧ isBounded (s.outline.distance p) = true ∧
        ∀ t ∈ net.roads, comesFirst p t s = true → s.outline.distance p < boxDistance p t) ∧
    ((∀ s ∈ net.roads, boxDistance p s ≤ s.outline.distance p) → ∀ s,
      net.nearestRoad? p = some s ↔ s ∈ net.roads ∧ isBounded (s.outline.distance p) = true ∧
        ∀ t ∈ net.roads, comesFirst p t s = false) ∧
    ∀ plane : RoadNetwork ℝ, plane.Accepted → (∀ s ∈ plane.segments, Drawn s) → ∀ q : Point ℝ,
      (plane.nearestRoad? q = none ↔ plane.roads = []) ∧
      (∀ s, plane.nearestRoad? q = some s ↔
        s ∈ plane.roads ∧ ∀ t ∈ plane.roads, comesFirst q t s = false) ∧
      ∀ s ∈ plane.segments, boxDistance q s ≤ s.outline.distance q := by
  refine ⟨nearestRoad?_eq_none_iff, fun s => nearestRoad?_spec,
    fun hbox s => nearestRoad?_eq_some_iff ha hbox, fun plane haccepted hdrawn q => ?_⟩
  have hbox : ∀ s ∈ plane.segments, boxDistance q s ≤ s.outline.distance q :=
    fun s hs => boxDistance_le (hdrawn s hs) q
  refine ⟨?none, fun s => ?some, hbox⟩
  case none =>
    rw [nearestRoad?_eq_none_iff]
    simp [ExactSums.bounded, List.eq_nil_iff_forall_not_mem]
  case some =>
    rw [nearestRoad?_eq_some_iff haccepted fun s hs => hbox s (List.mem_filter.1 hs).1]
    simp [ExactSums.bounded]

/-! ## Two roads in one place -/

noncomputable def straightRoad (id : Int) : Segment ℝ where
  id := id
  kind := .road
  leftBound := [⟨0, 1, 0⟩, ⟨1, 1, 0⟩]
  rightBound := [⟨0, -1, 0⟩, ⟨1, -1, 0⟩]
  center := [⟨0, 0, 0⟩, ⟨1, 0, 0⟩]
  successors := []
  predecessors := []
  left := ⟨none, .ofBool true, .ofBool false⟩
  right := ⟨none, .ofBool true, .ofBool false⟩
  drivable := .ofBool true

noncomputable def twinRoads : List (Segment ℝ) := [straightRoad 1, straightRoad 2]

noncomputable def twins : RoadNetwork ℝ := ⟨link twinRoads, [], [], 1⟩

theorem link_twinRoads : link twinRoads = twinRoads := rfl

theorem accepted_twins : twins.Accepted := by
  have hlength : ∀ id, ¬ (straightRoad id).length ≤ 0 := by
    intro id
    have hsum : (straightRoad id).length = 0 + √((1 - 0) * (1 - 0) + (0 - 0) * (0 - 0)) := rfl
    rw [hsum, not_le]
    positivity
  have hsegment : ∀ ids id, checkSegment ids (straightRoad id) = .ok () := by
    intro ids id
    have hfinite : Scalar.isFinite (straightRoad id).length = true := rfl
    have hreferences : (straightRoad id).references = [] := rfl
    simp [checkSegment, hfinite, hlength, hreferences]
  have hcheck : (check twinRoads).isOk := by
    have hone : firstRepeated? [] (twinRoads.map (·.id)) = none := rfl
    have heach : twinRoads.forM (checkSegment (twinRoads.map (·.id))) = .ok () := by
      simp only [twinRoads, List.forM, hsegment]
      rfl
    rw [check, hone, heach]
    rfl
  exact accepted_of_ascending hcheck (by simp [twinRoads, straightRoad]) [] [] 1

/-- Of two roads in one place the one with the lesser id is the nearest. -/
theorem twins_nearest : twins.Accepted ∧ (∀ s ∈ twins.segments, Drawn s) ∧
    twins.nearestRoad? ⟨5, 7⟩ = some (straightRoad 1) := by
  have hsegments : twins.segments = twinRoads := link_twinRoads
  have hdrawn : ∀ s ∈ twins.segments, Drawn s := by
    rw [hsegments]
    simp [twinRoads, Drawn, Segment.outlinePoints, straightRoad]
  refine ⟨accepted_twins, hdrawn, ?_⟩
  obtain ⟨-, -, -, hplane⟩ := nearestRoad?_isLeast accepted_twins ⟨5, 7⟩
  obtain ⟨-, hsome, -⟩ := hplane twins accepted_twins hdrawn ⟨5, 7⟩
  have hroads : twins.roads = twinRoads := by
    rw [roads, hsegments]
    rfl
  rw [hsome, hroads]
  refine ⟨by simp [twinRoads], fun t ht => ?_⟩
  rcases List.mem_pair.1 ht with rfl | rfl
  · exact (weakOrder_comesFirst _).irrefl trivial
  · -- all but the ids are the same
    refine comesFirst_eq_false_iff.2 ⟨le_refl _, fun _ => ?_⟩
    rw [keyBefore_eq_false_iff (Ring.isNumber_distance _ _) (Ring.isNumber_distance _ _)]
    exact ⟨le_refl _, fun _ => by simp [boxKey, key, straightRoad]⟩

/-! ## Two roads of doubles -/

def levelRoad (id : Int) (stops : List Float) : Segment Float where
  id := id
  kind := .road
  leftBound := stops.map (⟨·, 0, 0⟩)
  rightBound := stops.map (⟨·, -8, 0⟩)
  center := stops.map (⟨·, -4, 0⟩)
  successors := []
  predecessors := []
  left := ⟨none, .ofBool true, .ofBool false⟩
  right := ⟨none, .ofBool true, .ofBool false⟩
  drivable := .ofBool true

def levelRoads : List (Segment Float) := [levelRoad 1 [0, 16], levelRoad 2 [0, 11, 29]]

def levels : RoadNetwork Float := ⟨link levelRoads, [], [], 2⟩

theorem accepted_levels : levels.Accepted :=
  accepted_of_ascending (by decide +kernel) (by decide +kernel) [] [] 2

theorem levels_out_of_reach : ∀ s ∈ levels.segments,
    isBounded (s.outline.distance ⟨1e200, 1e200⟩) = false := by
  have hall : levels.segments.all
      (fun s => !isBounded (s.outline.distance ⟨1e200, 1e200⟩)) = true := by decide +kernel
  simpa using hall

/-- No road is found from where the distances overflow. Beside the roads the first one is found,
though the second one is nearer by the last digit, as its rectangle is farther away by that. -/
theorem levels_pass_over : levels.Accepted ∧ levels.roads ≠ [] ∧
    levels.nearestRoad? ⟨1e200, 1e200⟩ = none ∧
    ∃ s ∈ levels.roads, ∃ t ∈ levels.roads,
      (levels.nearestRoad? ⟨5, 7.5⟩).map (·.id) = some s.id ∧
        t.outline.distance ⟨5, 7.5⟩ < s.outline.distance ⟨5, 7.5⟩ := by
  have hroads : levels.roads.isEmpty = false := rfl
  have hfar : levels.nearestRoad? ⟨1e200, 1e200⟩ = none :=
    nearestRoad?_eq_none_iff.2 fun s hs => levels_out_of_reach s (List.mem_filter.1 hs).1
  have hnear : levels.byBoxDistance ⟨5, 7.5⟩ = levels.segments.map fun s =>
      (boxDistance ⟨5, 7.5⟩ s, s) := List.mergeSort_of_pairwise (by decide +kernel)
  refine ⟨accepted_levels, by simpa using hroads, hfar, ?_⟩
  rw [nearestRoad?, nearestUntil, hnear]
  decide +kernel

end LaneRoute.RoadNetwork
