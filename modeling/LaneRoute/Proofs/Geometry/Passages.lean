import LaneRoute.Proofs.Geometry.Repeats

/-!
# Passages of polylines

Which vertices a polyline passes, and after which planar distance. Where no two vertices that
follow each other are one above the other, there is one vertex for each distance, and the vertical
projection of a point is the vertex that is passed first of those nearest to the point.
-/

set_option autoImplicit false

namespace LaneRoute.Polyline

open Point LaneRoute.Ring

def PassesFrom (r : ℝ) (a : Vertex ℝ) : List (Vertex ℝ) → ℝ → Vertex ℝ → Prop
  | [], s, v => s = r ∧ v = a
  | b :: rest, s, v =>
    (∃ t, 0 ≤ t ∧ t ≤ 1 ∧ s = r + t * step a b ∧ v = vertexBetween a b t) ∨
      PassesFrom (r + step a b) b rest s v

/-- A polyline passes a vertex after a planar distance. -/
def Passes : Polyline ℝ → ℝ → Vertex ℝ → Prop
  | [], _, _ => False
  | a :: rest, s, v => PassesFrom 0 a rest s v

def Stepless (line : Polyline ℝ) : Prop := line.IsChain fun v w => v.flat = w.flat → v = w

/-! ## Vertices on a piece -/

theorem vertexBetween_zero (a b : Vertex ℝ) : vertexBetween a b 0 = a := by simp [vertexBetween]

theorem vertexBetween_one (a b : Vertex ℝ) : vertexBetween a b 1 = b := by simp [vertexBetween]

theorem vertexBetween_self (a : Vertex ℝ) (t : ℝ) : vertexBetween a a t = a := by
  simp [vertexBetween]

theorem step_vertexBetween (a b : Vertex ℝ) (t u : ℝ) :
    step (vertexBetween a b t) (vertexBetween a b u) = |u - t| * step a b := by
  rw [step_eq, step_eq, ← Real.sqrt_mul_self_eq_abs, ← Real.sqrt_mul (mul_self_nonneg _)]
  congr 1
  simp only [vertexBetween]
  ring

theorem step_vertexBetween_stop (a b : Vertex ℝ) {t : ℝ} (h : t ≤ 1) :
    step (vertexBetween a b t) b = (1 - t) * step a b := by
  have hstep := step_vertexBetween a b t 1
  rwa [vertexBetween_one, abs_of_nonneg (sub_nonneg.2 h)] at hstep

theorem share_mul_step_le {t : ℝ} (h : t ≤ 1) (a b : Vertex ℝ) : t * step a b ≤ step a b :=
  mul_le_of_le_one_left (step_nonneg a b) h

/-! ## One vertex for each distance -/

section From

variable {r s : ℝ} {a v w : Vertex ℝ} {rest : List (Vertex ℝ)}

theorem passesFrom_start (r : ℝ) (a : Vertex ℝ) (rest : List (Vertex ℝ)) :
    PassesFrom r a rest r a := by
  cases rest with
  | nil => exact ⟨rfl, rfl⟩
  | cons b rest => exact Or.inl ⟨0, le_rfl, zero_le_one, by simp, (vertexBetween_zero a b).symm⟩

theorem le_of_passesFrom (h : PassesFrom r a rest s v) : r ≤ s := by
  induction rest generalizing r a with
  | nil => exact h.1.ge
  | cons b rest ih =>
    rcases h with ⟨t, h0, -, rfl, -⟩ | h
    · exact le_add_of_nonneg_right (mul_nonneg h0 (step_nonneg a b))
    · exact (le_add_of_nonneg_right (step_nonneg a b)).trans (ih h)

theorem eq_of_passesFrom_start (hline : Stepless (a :: rest)) (h : PassesFrom r a rest r v) :
    v = a := by
  induction rest generalizing r a with
  | nil => exact h.2
  | cons b rest ih =>
    obtain ⟨hab, hrest⟩ := List.isChain_cons_cons.1 hline
    by_cases hflat : a.flat = b.flat
    · obtain rfl := hab hflat
      rw [PassesFrom, step_of_eq rfl, add_zero] at h
      rcases h with ⟨t, -, -, -, rfl⟩ | h
      · exact vertexBetween_self a t
      · exact ih hrest h
    · have hpos := step_pos hflat
      rcases h with ⟨t, -, -, hs, rfl⟩ | h
      · have ht : t = 0 := by
          rcases mul_eq_zero.1 (left_eq_add.1 hs) with ht | hstep
          · exact ht
          · exact absurd hstep hpos.ne'
        rw [ht, vertexBetween_zero]
      · exact absurd (le_of_passesFrom h) (by linarith)

theorem passesFrom_unique (hline : Stepless (a :: rest)) (hv : PassesFrom r a rest s v)
    (hw : PassesFrom r a rest s w) : v = w := by
  induction rest generalizing r a with
  | nil => exact hv.2.trans hw.2.symm
  | cons b rest ih =>
    obtain ⟨hab, hrest⟩ := List.isChain_cons_cons.1 hline
    -- what is passed on the first piece and from its end on is its end
    have hseam : ∀ {t : ℝ} {u : Vertex ℝ}, t ≤ 1 → s = r + t * step a b →
        PassesFrom (r + step a b) b rest s u → vertexBetween a b t = u := by
      intro t u h1 hs hu
      have hend : s = r + step a b :=
        le_antisymm (by linarith [share_mul_step_le h1 a b]) (le_of_passesFrom hu)
      have hstart : u = b := eq_of_passesFrom_start hrest (hend ▸ hu)
      rw [hstart]
      by_cases hflat : a.flat = b.flat
      · rw [hab hflat, vertexBetween_self]
      · have ht : t = 1 := by
          apply mul_right_cancel₀ (step_pos hflat).ne'
          linarith
        rw [ht, vertexBetween_one]
    rcases hv with ⟨t, -, ht, hs, rfl⟩ | hv <;> rcases hw with ⟨t', -, ht', hs', rfl⟩ | hw
    · by_cases hflat : a.flat = b.flat
      · rw [hab hflat, vertexBetween_self, vertexBetween_self]
      · have hshare : t = t' := by
          apply mul_right_cancel₀ (step_pos hflat).ne'
          linarith
        rw [hshare]
    · exact hseam ht hs hw
    · exact (hseam ht' hs' hv).symm
    · exact ih hrest hv hw

theorem passesFrom_withoutRepeatsFrom (hline : Stepless (a :: rest)) :
    PassesFrom r a (withoutRepeatsFrom a rest) s v ↔ PassesFrom r a rest s v := by
  induction rest generalizing r a with
  | nil => rfl
  | cons b rest ih =>
    obtain ⟨hab, hrest⟩ := List.isChain_cons_cons.1 hline
    by_cases hflat : a.flat = b.flat
    · obtain rfl := hab hflat
      rw [withoutRepeatsFrom_of_eq rfl, ih hrest, PassesFrom, step_of_eq rfl, add_zero]
      constructor
      · exact Or.inr
      · rintro (⟨t, -, -, hs, rfl⟩ | h)
        · rw [vertexBetween_self, hs, mul_zero, add_zero]
          exact passesFrom_start r a rest
        · exact h
    · rw [withoutRepeatsFrom_of_ne hflat, PassesFrom, PassesFrom, ih hrest]

theorem passesFrom_of_mem_knots (h : (s, v) ∈ (arcLengthsFrom r a rest).zip (a :: rest)) :
    PassesFrom r a rest s v := by
  induction rest generalizing r a with
  | nil =>
    obtain ⟨rfl, rfl⟩ := Prod.mk.inj (List.mem_singleton.1 h)
    exact ⟨rfl, rfl⟩
  | cons b rest ih =>
    rcases List.mem_cons.1 h with hstart | h
    · obtain ⟨rfl, rfl⟩ := Prod.mk.inj hstart
      exact passesFrom_start _ _ _
    · exact Or.inr (ih h)

end From

theorem passes_unique {line : Polyline ℝ} (hline : Stepless line) {s : ℝ} {v w : Vertex ℝ}
    (hv : Passes line s v) (hw : Passes line s w) : v = w := by
  cases line with
  | nil => exact hv.elim
  | cons a rest => exact passesFrom_unique hline hv hw

theorem passes_withoutRepeats {line : Polyline ℝ} (hline : Stepless line) {s : ℝ} {v : Vertex ℝ} :
    Passes (withoutRepeats line) s v ↔ Passes line s v := by
  cases line with
  | nil => rfl
  | cons a rest => exact passesFrom_withoutRepeatsFrom hline

theorem passes_of_mem_knots {line : Polyline ℝ} {s : ℝ} {v : Vertex ℝ} (h : (s, v) ∈ knots line) :
    Passes line s v := by
  cases line with
  | nil => simp [knots] at h
  | cons a rest => exact passesFrom_of_mem_knots h

/-! ## The first of the nearest places -/

/-- A vertex is passed before all others of a polyline that are as near to a point, and none is
nearer. -/
def IsFirstNearest (p : Point ℝ) (line : Polyline ℝ) (v : Vertex ℝ) : Prop :=
  ∃ s, Passes line s v ∧ ∀ u w, Passes line u w →
    p.distance v.flat ≤ p.distance w.flat ∧ (u < s → p.distance v.flat < p.distance w.flat)

theorem isFirstNearest_unique {p : Point ℝ} {line : Polyline ℝ} (hline : Stepless line)
    {v w : Vertex ℝ} (hv : IsFirstNearest p line v) (hw : IsFirstNearest p line w) : v = w := by
  obtain ⟨s, hs, hvleast⟩ := hv
  obtain ⟨u, hu, hwleast⟩ := hw
  rcases lt_trichotomy s u with hlt | rfl | hlt
  · exact absurd ((hwleast s v hs).2 hlt) (not_lt.2 (hvleast u w hu).1)
  · exact passes_unique hline hs hu
  · exact absurd ((hvleast u w hu).2 hlt) (not_lt.2 (hwleast s v hs).1)

theorem distance_pieceFoot_lt (p : Point ℝ) {a b : Vertex ℝ} (h : a.flat ≠ b.flat) {t : ℝ}
    (h0 : 0 ≤ t) (hlt : t < (pieceFoot p a b).share) :
    (pieceFoot p a b).distance < p.distance (between a.flat b.flat t) := by
  rw [distance_pieceFoot, ← not_le, distance_between_le_iff h, not_le]
  rw [share_of_ne h] at hlt ⊢
  have hbefore : clamp 0 1 (part a.flat b.flat p) ≤ part a.flat b.flat p := by
    rcases max_choice 0 (min (part a.flat b.flat p) 1) with hzero | hmin
    · exact absurd (hlt.trans_eq hzero) (not_lt.2 h0)
    · exact hmin.trans_le (min_le_left _ _)
  rw [abs_of_nonneg (sub_nonneg.2 hbefore), abs_of_nonneg (by linarith)]
  linarith

theorem exists_foot_le {p : Point ℝ} {r u : ℝ} {a w : Vertex ℝ} {rest : List (Vertex ℝ)}
    (h : PassesFrom r a rest u w) :
    w = a ∨ ∃ f ∈ feet p (a :: rest), f.distance ≤ p.distance w.flat := by
  induction rest generalizing r a with
  | nil => exact Or.inl h.2
  | cons b rest ih =>
    have hstop : (pieceFoot p a b).distance ≤ p.distance b.flat := by
      have hplace := distance_pieceFoot_le p a b zero_le_one le_rfl
      simpa [between] using hplace
    rcases h with ⟨t, h0, h1, -, rfl⟩ | h
    · exact Or.inr ⟨_, List.mem_cons_self, distance_pieceFoot_le p a b h0 h1⟩
    · rcases ih h with rfl | ⟨f, hf, hle⟩
      · exact Or.inr ⟨_, List.mem_cons_self, hstop⟩
      · exact Or.inr ⟨f, List.mem_cons_of_mem _ hf, hle⟩

/-- The first least of the feet is passed before all other places that are as near. -/
theorem exists_passage {p : Point ℝ} {a : Vertex ℝ} {rest : List (Vertex ℝ)} {f : Foot ℝ}
    (h : IsFirstLeast Foot.before (feet p (a :: rest)) f) (r : ℝ) :
    ∃ s, PassesFrom r a rest s f.place ∧ ∀ u w, PassesFrom r a rest u w →
      f.distance ≤ p.distance w.flat ∧ (u < s → f.distance < p.distance w.flat) := by
  induction rest generalizing r a with
  | nil => exact absurd h.mem List.not_mem_nil
  | cons b rest ih =>
    rcases isFirstLeast_cons.1 h with ⟨rfl, hleast⟩ | ⟨hfirst, hrest⟩
    · obtain ⟨h0, h1⟩ := share_mem p a b
      refine ⟨r + (pieceFoot p a b).share * step a b, Or.inl ⟨_, h0, h1, rfl, rfl⟩, fun u w hw => ?_⟩
      rcases hw with ⟨t, ht0, ht1, rfl, rfl⟩ | hw
      · refine ⟨distance_pieceFoot_le p a b ht0 ht1, fun hlt => ?_⟩
        have hshare := lt_of_mul_lt_mul_right (lt_of_add_lt_add_left hlt) (step_nonneg a b)
        have hflat : a.flat ≠ b.flat := by
          intro hflat
          rw [step_of_eq hflat, mul_zero, mul_zero] at hlt
          exact lt_irrefl _ hlt
        exact distance_pieceFoot_lt p hflat ht0 hshare
      · constructor
        · rcases exists_foot_le (p := p) hw with rfl | ⟨g, hg, hle⟩
          · have hstop := distance_pieceFoot_le p a w zero_le_one le_rfl
            simpa [between] using hstop
          · exact (not_lt.1 (of_decide_eq_false (hleast g hg))).trans hle
        · intro hlt
          have hend := le_of_passesFrom hw
          exact absurd hlt (by linarith [share_mul_step_le h1 a b])
    · obtain ⟨s, hs, hleast⟩ := ih hrest (r + step a b)
      refine ⟨s, Or.inr hs, fun u w hw => ?_⟩
      rcases hw with ⟨t, ht0, ht1, -, rfl⟩ | hw
      · have hlt : f.distance < p.distance (vertexBetween a b t).flat :=
          (of_decide_eq_true hfirst).trans_le (distance_pieceFoot_le p a b ht0 ht1)
        exact ⟨hlt.le, fun _ => hlt⟩
      · exact hleast u w hw

theorem isFirstNearest_project {line : Polyline ℝ} (h : 2 ≤ List.length line) (p : Point ℝ) :
    ∃ v, project? line p = some v ∧ IsFirstNearest p line v := by
  obtain ⟨f, hf, hfirst⟩ := exists_foot h p
  obtain ⟨⟨a, b⟩, -, rfl⟩ := List.mem_map.1 hfirst.mem
  have hproject : project? line p = some (pieceFoot p a b).place := by rw [project?, hf]
  refine ⟨_, hproject, ?_⟩
  cases line with
  | nil => exact absurd hfirst.mem List.not_mem_nil
  | cons c rest =>
    obtain ⟨s, hs, hleast⟩ := exists_passage hfirst 0
    refine ⟨s, hs, fun u w hw => ?_⟩
    have hplace : p.distance (pieceFoot p a b).place.flat = (pieceFoot p a b).distance :=
      (distance_pieceFoot p a b).symm
    rw [hplace]
    exact hleast u w hw

end LaneRoute.Polyline
