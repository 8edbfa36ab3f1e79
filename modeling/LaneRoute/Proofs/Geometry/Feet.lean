import LaneRoute.Proofs.Geometry.Boxes
import LaneRoute.Proofs.Number.Ordered
import LaneRoute.Geometry.Polyline

/-!
# Feet on polylines

Where a polyline comes nearest to a point. On one piece, a place is the farther from the point
the farther its share is from the part of the piece that the point is ahead, so the foot is at
this part, kept between zero and one. The loop over the pieces keeps the first of the nearest
feet, and the elevation there is between those of the ends of the piece.
-/

set_option autoImplicit false

namespace LaneRoute.Polyline

open Scalar

/-! ## The loop over the pieces -/

section Pieces

variable {α : Type}

def IsPiece (vertices : Polyline α) (i : Nat) (a b : Vertex α) : Prop :=
  vertices[i]? = some a ∧ vertices[i + 1]? = some b

def pieces (line : Polyline α) : List (Vertex α × Vertex α) := line.zip line.tail

theorem pieces_getElem?_eq_some {line : Polyline α} {i : Nat} {e : Vertex α × Vertex α} :
    (pieces line)[i]? = some e ↔ IsPiece line i e.1 e.2 := by
  rw [pieces, List.getElem?_zip_eq_some, List.getElem?_tail, IsPiece]

end Pieces

section Scalars

variable {α : Type} [Scalar α]

def feet (p : Point α) (line : Polyline α) : List (Foot α) :=
  (pieces line).map fun e => pieceFoot p e.1 e.2

def Foot.before (f g : Foot α) : Bool := decide (f.distance < g.distance)

theorem footFrom_eq_foldl (p : Point α) (best : Option (Foot α)) (a : Vertex α)
    (rest : List (Vertex α)) :
    footFrom p best a rest = (feet p (a :: rest)).foldl Foot.nearer best := by
  induction rest generalizing a best with
  | nil => rfl
  | cons b rest ih => exact ih _ b

theorem foldl_nearer_eq {feet : List (Foot α)}
    (h : ∀ f ∈ feet, isBounded f.distance = true) (best : Option (Foot α)) :
    feet.foldl Foot.nearer best =
      feet.foldl (List.argAux fun f g => Foot.before f g = true) best := by
  apply List.foldl_ext
  intro best f hf
  cases best with
  | none => exact if_pos (h f hf)
  | some old => simp [Foot.nearer, List.argAux, Foot.before]

theorem weakOrder_before [OrderedNumbers α] :
    WeakOrder (Foot.before (α := α)) fun f => isNumber f.distance = true :=
  OrderedNumbers.weakOrder_lt fun _ hf => hf

theorem exists_foot_of_bounded [OrderedNumbers α] {line : Polyline α} (h : 2 ≤ List.length line)
    {p : Point α} (hb : ∀ f ∈ feet p line, isBounded f.distance = true) :
    ∃ f, foot? p line = some f ∧ IsFirstLeast Foot.before (feet p line) f := by
  match line, h with
  | a :: b :: rest, _ =>
    have hne : feet p (a :: b :: rest) ≠ [] := by simp [feet, pieces]
    have hnumber := fun f hf => OrderedNumbers.isNumber_of_isBounded _ (hb f hf)
    obtain ⟨f, hf, hfirst⟩ := weakOrder_before.exists_foldl hnumber hne
    refine ⟨f, ?_, hfirst⟩
    rw [foot?, footFrom_eq_foldl, foldl_nearer_eq hb, hf]
    rfl

theorem exists_foot [ExactSums α] {line : Polyline α} (h : 2 ≤ List.length line) (p : Point α) :
    ∃ f, foot? p line = some f ∧ IsFirstLeast Foot.before (feet p line) f :=
  exists_foot_of_bounded h fun f _ => ExactSums.bounded f.distance

/-- A foot on a piece with an index, as it is measured: none is nearer, and those on earlier pieces
are farther. -/
structure IsNearestFoot (p : Point α) (line : Polyline α) (i : Nat) (f : Foot α) : Prop where
  piece : IsPiece line i f.start f.stop
  foot : pieceFoot p f.start f.stop = f
  least : ∀ g ∈ feet p line, ¬ g.distance < f.distance
  first : ∀ j g, j < i → (feet p line)[j]? = some g → f.distance < g.distance

theorem isNearestFoot_of_isFirstLeast [OrderedNumbers α] {p : Point α} {line : Polyline α}
    (hnumber : ∀ f ∈ feet p line, isNumber f.distance = true) {f : Foot α}
    (h : IsFirstLeast Foot.before (feet p line) f) : ∃ i, IsNearestFoot p line i f := by
  have hleast := weakOrder_before.least_of_isFirstLeast hnumber h
  obtain ⟨⟨a, b⟩, rfl, earlier, later, hpieces, hearlier, -⟩ := isFirstLeast_map.1 h
  refine ⟨earlier.length, ?piece, rfl, fun g hg => of_decide_eq_false (hleast g hg), ?first⟩
  case piece =>
    apply pieces_getElem?_eq_some (e := (a, b)).1
    rw [hpieces]
    simp
  case first =>
    intro j g hj hg
    rw [feet, hpieces, List.getElem?_map, List.getElem?_append_left hj] at hg
    obtain ⟨e, he, rfl⟩ := Option.map_eq_some_iff.1 hg
    exact of_decide_eq_true (hearlier e (List.mem_of_getElem? he))

end Scalars

/-! ## One piece -/

open Point LaneRoute.Ring

theorem toUnit_eq_clamp (x : ℝ) : toUnit x = clamp 0 1 x := by
  unfold toUnit clamp
  split
  next h => rw [min_eq_left (h.le.trans zero_le_one), max_eq_left h.le]
  next h =>
    split
    next h1 => rw [min_eq_right h1.le, max_eq_right zero_le_one]
    next h1 => rw [min_eq_left (not_lt.1 h1), max_eq_right (not_lt.1 h)]

noncomputable def part (a b p : Point ℝ) : ℝ := ahead a b p / ahead a b b

/-- Places come farther with the distance of their shares from the part that the point is
ahead. -/
theorem distance_between_le_iff {p a b : Point ℝ} (h : a ≠ b) {s t : ℝ} :
    p.distance (between a b s) ≤ p.distance (between a b t) ↔
      |part a b p - s| ≤ |part a b p - t| := by
  have hpos := ahead_self_pos h
  have hsquare : ∀ u, ahead a p p - 2 * u * ahead a b p + u * u * ahead a b b
      = ahead a b b * (part a b p - u) ^ 2 + (ahead a p p - ahead a b b * part a b p ^ 2) := by
    intro u
    have hpart : ahead a b p = ahead a b b * part a b p := (mul_div_cancel₀ _ hpos.ne').symm
    rw [hpart]
    ring
  have hnonneg : 0 ≤ ahead a p p - 2 * t * ahead a b p + t * t * ahead a b b := by
    have hsum : ahead a p p - 2 * t * ahead a b p + t * t * ahead a b b
        = (p.x - a.x - t * (b.x - a.x)) ^ 2 + (p.y - a.y - t * (b.y - a.y)) ^ 2 := by
      simp only [ahead]
      ring
    rw [hsum]
    positivity
  rw [distance_between, distance_between, Real.sqrt_le_sqrt_iff hnonneg, hsquare, hsquare,
    add_le_add_iff_right, mul_le_mul_iff_right₀ hpos, sq_le_sq]

theorem share_of_eq {a b : Vertex ℝ} (h : a.flat = b.flat) (p : Point ℝ) :
    (pieceFoot p a b).share = 0 := by
  have hzero : ahead a.flat b.flat b.flat = 0 := by simp [ahead, h]
  exact if_pos (agrees_iff.2 hzero)

theorem share_of_ne {a b : Vertex ℝ} (h : a.flat ≠ b.flat) (p : Point ℝ) :
    (pieceFoot p a b).share = clamp 0 1 (part a.flat b.flat p) := by
  rw [← toUnit_eq_clamp]
  exact if_neg fun hzero => (ahead_self_pos h).ne' (agrees_iff.1 hzero)

theorem share_mem (p : Point ℝ) (a b : Vertex ℝ) :
    0 ≤ (pieceFoot p a b).share ∧ (pieceFoot p a b).share ≤ 1 := by
  by_cases h : a.flat = b.flat
  · rw [share_of_eq h]
    exact ⟨le_refl 0, zero_le_one⟩
  · rw [share_of_ne h]
    exact clamp_mem zero_le_one _

theorem distance_pieceFoot (p : Point ℝ) (a b : Vertex ℝ) : (pieceFoot p a b).distance =
    p.distance (between a.flat b.flat (pieceFoot p a b).share) := by
  set t := (pieceFoot p a b).share with ht
  have hdistance : (pieceFoot p a b).distance =
      √((a.x + t * (b.x - a.x) - p.x) * (a.x + t * (b.x - a.x) - p.x) +
        (a.y + t * (b.y - a.y) - p.y) * (a.y + t * (b.y - a.y) - p.y)) := rfl
  rw [hdistance, distance_eq]
  congr 1
  simp only [between, Vertex.flat]
  ring

theorem distance_pieceFoot_le (p : Point ℝ) (a b : Vertex ℝ) {t : ℝ} (h0 : 0 ≤ t) (h1 : t ≤ 1) :
    (pieceFoot p a b).distance ≤ p.distance (between a.flat b.flat t) := by
  rw [distance_pieceFoot]
  by_cases h : a.flat = b.flat
  · have hstay : ∀ u, between a.flat b.flat u = a.flat := by simp [h, between]
    rw [hstay, hstay]
  · rw [share_of_ne h]
    exact (distance_between_le_iff h).2 (abs_sub_clamp_le ⟨h0, h1⟩ _)

/-! ## The whole polyline -/

def piecePlaces (a b : Vertex ℝ) : Set (Point ℝ) :=
  {q | ∃ t, 0 ≤ t ∧ t ≤ 1 ∧ q = between a.flat b.flat t}

def places (line : Polyline ℝ) : Set (Point ℝ) :=
  {q | ∃ i a b, IsPiece line i a b ∧ q ∈ piecePlaces a b}

def vertexBetween (a b : Vertex ℝ) (t : ℝ) : Vertex ℝ :=
  ⟨a.x + t * (b.x - a.x), a.y + t * (b.y - a.y), a.z + t * (b.z - a.z)⟩

/-- A foot of a point on a piece with an index: it is at a place of the piece, at the distance
of this place, no place of the polyline is nearer, and those of earlier pieces are farther. -/
structure IsNearest (p : Point ℝ) (line : Polyline ℝ) (i : Nat) (f : Foot ℝ) : Prop where
  piece : IsPiece line i f.start f.stop
  share : 0 ≤ f.share ∧ f.share ≤ 1
  distance : p.distance (between f.start.flat f.stop.flat f.share) = f.distance
  least : ∀ q ∈ places line, f.distance ≤ p.distance q
  first : ∀ j a b, j < i → IsPiece line j a b → ∀ q ∈ piecePlaces a b, f.distance < p.distance q

theorem IsNearestFoot.isNearest {p : Point ℝ} {line : Polyline ℝ} {i : Nat} {f : Foot ℝ}
    (h : IsNearestFoot p line i f) : IsNearest p line i f := by
  refine ⟨h.piece, h.foot ▸ share_mem p _ _, ?distance, ?least, ?first⟩
  case distance =>
    have hdistance := distance_pieceFoot p f.start f.stop
    rw [h.foot] at hdistance
    exact hdistance.symm
  case least =>
    rintro _ ⟨j, c, d, hpiece, t, h0, h1, rfl⟩
    have hmem : pieceFoot p c d ∈ feet p line :=
      List.mem_map_of_mem (List.mem_of_getElem? (pieces_getElem?_eq_some (e := (c, d)).2 hpiece))
    exact (not_lt.1 (h.least _ hmem)).trans (distance_pieceFoot_le p c d h0 h1)
  case first =>
    rintro j c d hj hpiece _ ⟨t, h0, h1, rfl⟩
    have hget := pieces_getElem?_eq_some (e := (c, d)).2 hpiece
    have hfoot : (feet p line)[j]? = some (pieceFoot p c d) := by
      rw [feet, List.getElem?_map, hget]
      rfl
    exact (h.first j _ hj hfoot).trans_le (distance_pieceFoot_le p c d h0 h1)

theorem isNearest_of_isFirstLeast {p : Point ℝ} {line : Polyline ℝ} {f : Foot ℝ}
    (h : IsFirstLeast Foot.before (feet p line) f) : ∃ i, IsNearest p line i f := by
  obtain ⟨i, hi⟩ := isNearestFoot_of_isFirstLeast (fun f _ => ExactSums.isNumber f.distance) h
  exact ⟨i, hi.isNearest⟩

theorem vertexBetween_z_mem (a b : Vertex ℝ) {t : ℝ} (h0 : 0 ≤ t) (h1 : t ≤ 1) :
    (vertexBetween a b t).z ∈ Set.uIcc a.z b.z :=
  between_mem ⟨min_le_left _ _, le_max_left _ _⟩ ⟨min_le_right _ _, le_max_right _ _⟩ h0 h1

/-- A polyline with a piece has a foot of every point: on the first of the pieces that come
nearest, at the nearest place of the whole polyline. The projection is the vertex at the share
of the foot, which lies in the plane at this place and is no higher and no lower than the piece. -/
theorem foot?_isNearest {line : Polyline ℝ} (h : 2 ≤ List.length line) (p : Point ℝ) :
    ∃ f i v, foot? p line = some f ∧ IsNearest p line i f ∧
      project? line p = some v ∧ v = vertexBetween f.start f.stop f.share ∧
      v.z ∈ Set.uIcc f.start.z f.stop.z ∧
      v.flat ∈ places line ∧ ∀ q ∈ places line, p.distance v.flat ≤ p.distance q := by
  obtain ⟨f, hf, hfirst⟩ := exists_foot h p
  obtain ⟨i, hnearest⟩ := isNearest_of_isFirstLeast hfirst
  obtain ⟨h0, h1⟩ := hnearest.share
  have hproject : project? line p = some (vertexBetween f.start f.stop f.share) := by
    rw [project?, hf]
    rfl
  refine ⟨f, i, _, hf, hnearest, hproject, rfl, vertexBetween_z_mem _ _ h0 h1, ?_, ?_⟩
  · exact ⟨i, f.start, f.stop, hnearest.piece, f.share, h0, h1, rfl⟩
  · intro q hq
    exact hnearest.distance.trans_le (hnearest.least q hq)

/-! ## A step up and a slope -/

def stepAndSlope : Polyline ℝ := [⟨0, 0, 0⟩, ⟨0, 0, 1⟩, ⟨4, 0, 3⟩]

/-- Beside the slope the foot lies on it, although the first piece has no length. -/
theorem stepAndSlope_isNearest : 2 ≤ List.length stepAndSlope ∧
    project? stepAndSlope ⟨3, 4⟩ = some ⟨3, 0, 5 / 2⟩ := by
  have hpiece : 2 ≤ List.length stepAndSlope := by simp [stepAndSlope]
  refine ⟨hpiece, ?_⟩
  obtain ⟨f, i, v, -, hnearest, hproject, hv, -, -, hleast⟩ :=
    foot?_isNearest hpiece ⟨3, 4⟩
  have hslope : (⟨3, 0⟩ : Point ℝ) ∈ places stepAndSlope := by
    refine ⟨1, ⟨0, 0, 1⟩, ⟨4, 0, 3⟩, ⟨rfl, rfl⟩, 3 / 4, by norm_num, by norm_num, ?_⟩
    simp [between, Vertex.flat]
  have hnear := hleast _ hslope
  rw [distance_eq, distance_eq, Real.sqrt_le_sqrt_iff (by norm_num)] at hnear
  obtain ⟨hstart, hstop⟩ := hnearest.piece
  have hlength : i + 1 < 3 := (List.getElem?_eq_some_iff.1 hstop).1
  obtain rfl | rfl : i = 0 ∨ i = 1 := by omega
  · -- the step stays too far away
    rw [← Option.some.inj hstart, ← Option.some.inj hstop] at hv
    norm_num [hv, vertexBetween, Vertex.flat] at hnear
  · rw [← Option.some.inj hstart, ← Option.some.inj hstop] at hv
    have hshare : f.share = 3 / 4 := by
      norm_num [hv, vertexBetween, Vertex.flat] at hnear
      nlinarith [sq_nonneg (f.share - 3 / 4)]
    rw [hproject, hv, hshare]
    norm_num [vertexBetween]

end LaneRoute.Polyline
