import LaneRoute.Proofs.Geometry.Passages
import LaneRoute.Proofs.Geometry.Samples

/-!
# Refinements

A polyline is refined by vertices on its pieces. Each of them leaves what is passed after which
distance as it is. Samples at ascending positions, the arc lengths of the vertices among them, make
a refinement: between two vertices a sample divides the piece that is left.
-/

set_option autoImplicit false

namespace LaneRoute.Polyline

open LaneRoute.Ring

/-! ## Refinements -/

/-- What follows a vertex, and the same with vertices added on the pieces. -/
inductive RefinesFrom : Vertex ℝ → List (Vertex ℝ) → List (Vertex ℝ) → Prop
  | stop (a : Vertex ℝ) : RefinesFrom a [] []
  | keep (a : Vertex ℝ) {b : Vertex ℝ} {rest fine : List (Vertex ℝ)} (h : RefinesFrom b rest fine) :
      RefinesFrom a (b :: rest) (b :: fine)
  | divide {a b : Vertex ℝ} {t : ℝ} {rest fine : List (Vertex ℝ)} (h0 : 0 < t) (h1 : t < 1)
      (h : RefinesFrom (vertexBetween a b t) (b :: rest) fine) :
      RefinesFrom a (b :: rest) (vertexBetween a b t :: fine)

theorem step_vertexBetween_start (a b : Vertex ℝ) {t : ℝ} (h : 0 ≤ t) :
    step a (vertexBetween a b t) = t * step a b := by
  have hstep := step_vertexBetween a b 0 t
  rwa [vertexBetween_zero, sub_zero, abs_of_nonneg h] at hstep

theorem step_add_step (a b : Vertex ℝ) {t : ℝ} (h0 : 0 ≤ t) (h1 : t ≤ 1) :
    step a (vertexBetween a b t) + step (vertexBetween a b t) b = step a b := by
  rw [step_vertexBetween_start a b h0, step_vertexBetween_stop a b h1]
  ring

theorem vertexBetween_before (a b : Vertex ℝ) (t u : ℝ) :
    vertexBetween a (vertexBetween a b t) u = vertexBetween a b (u * t) := by
  simp only [vertexBetween, Vertex.mk.injEq]
  refine ⟨?_, ?_, ?_⟩ <;> ring

theorem vertexBetween_after (a b : Vertex ℝ) (t u : ℝ) :
    vertexBetween (vertexBetween a b t) b u = vertexBetween a b (t + u * (1 - t)) := by
  simp only [vertexBetween, Vertex.mk.injEq]
  refine ⟨?_, ?_, ?_⟩ <;> ring

namespace RefinesFrom

variable {a : Vertex ℝ} {rest fine : List (Vertex ℝ)}

theorem sublist (h : RefinesFrom a rest fine) : rest.Sublist fine := by
  induction h with
  | stop a => exact List.Sublist.refl _
  | keep a _ ih => exact ih.cons_cons _
  | divide _ _ _ ih => exact ih.cons _

theorem getLast?_eq (h : RefinesFrom a rest fine) :
    (a :: fine).getLast? = (a :: rest).getLast? := by
  induction h with
  | stop a => rfl
  | keep a _ ih => rw [List.getLast?_cons_cons, List.getLast?_cons_cons, ih]
  | divide _ _ _ ih => rw [List.getLast?_cons_cons, ih, List.getLast?_cons_cons, List.getLast?_cons_cons]

theorem planarLengthFrom_eq (h : RefinesFrom a rest fine) (s : ℝ) :
    planarLengthFrom s a fine = planarLengthFrom s a rest := by
  induction h generalizing s with
  | stop a => rfl
  | keep a _ ih => exact ih _
  | @divide a b t rest fine h0 h1 _ ih =>
    rw [planarLengthFrom, ih, planarLengthFrom, planarLengthFrom, add_assoc,
      step_add_step a b h0.le h1.le]

theorem noRepeats (h : RefinesFrom a rest fine) (hline : NoRepeats (a :: rest)) :
    NoRepeats (a :: fine) := by
  induction h with
  | stop a => exact hline
  | keep a _ ih =>
    obtain ⟨hflat, hrest⟩ := List.isChain_cons_cons.1 hline
    exact List.isChain_cons_cons.2 ⟨hflat, ih hrest⟩
  | @divide a b t rest fine h0 h1 _ ih =>
    obtain ⟨hflat, hrest⟩ := List.isChain_cons_cons.1 hline
    have hpos := step_pos hflat
    have hbefore : a.flat ≠ (vertexBetween a b t).flat := by
      intro he
      have hstep := step_of_eq he
      rw [step_vertexBetween_start a b h0.le] at hstep
      exact (mul_pos h0 hpos).ne' hstep
    have hafter : (vertexBetween a b t).flat ≠ b.flat := by
      intro he
      have hstep := step_of_eq he
      rw [step_vertexBetween_stop a b h1.le] at hstep
      exact (mul_pos (sub_pos.2 h1) hpos).ne' hstep
    exact List.isChain_cons_cons.2 ⟨hbefore, ih (List.isChain_cons_cons.2 ⟨hafter, hrest⟩)⟩

theorem passes_divided {r s : ℝ} {a b v : Vertex ℝ} {t : ℝ} (h0 : 0 < t) (h1 : t < 1) :
    (∃ u, 0 ≤ u ∧ u ≤ 1 ∧ s = r + u * step a b ∧ v = vertexBetween a b u) ↔
      (∃ u, 0 ≤ u ∧ u ≤ 1 ∧ s = r + u * step a (vertexBetween a b t) ∧
        v = vertexBetween a (vertexBetween a b t) u) ∨
      ∃ u, 0 ≤ u ∧ u ≤ 1 ∧ s = r + step a (vertexBetween a b t)
        + u * step (vertexBetween a b t) b ∧ v = vertexBetween (vertexBetween a b t) b u := by
  have hrest : 0 < 1 - t := sub_pos.2 h1
  simp only [step_vertexBetween_start a b h0.le, step_vertexBetween_stop a b h1.le,
    vertexBetween_before, vertexBetween_after]
  constructor
  · rintro ⟨u, hu0, hu1, rfl, rfl⟩
    rcases le_total u t with hle | hle
    · have hshare : u / t * t = u := div_mul_cancel₀ u h0.ne'
      refine Or.inl ⟨u / t, div_nonneg hu0 h0.le, (div_le_one h0).2 hle, ?_, by rw [hshare]⟩
      rw [← mul_assoc, hshare]
    · have hshare : (u - t) / (1 - t) * (1 - t) = u - t := div_mul_cancel₀ _ hrest.ne'
      refine Or.inr ⟨(u - t) / (1 - t), div_nonneg (sub_nonneg.2 hle) hrest.le,
        (div_le_one hrest).2 (by linarith), ?_, by rw [hshare, add_sub_cancel]⟩
      rw [← mul_assoc, hshare]
      ring
  · rintro (⟨u, hu0, hu1, rfl, rfl⟩ | ⟨u, hu0, hu1, rfl, rfl⟩)
    · refine ⟨u * t, mul_nonneg hu0 h0.le, mul_le_one₀ hu1 h0.le h1.le, by ring, rfl⟩
    · refine ⟨t + u * (1 - t), add_nonneg h0.le (mul_nonneg hu0 hrest.le), ?_, by ring, rfl⟩
      linarith [mul_le_of_le_one_left hrest.le hu1]

theorem passesFrom_iff (h : RefinesFrom a rest fine) {r s : ℝ} {v : Vertex ℝ} :
    PassesFrom r a fine s v ↔ PassesFrom r a rest s v := by
  induction h generalizing r with
  | stop a => rfl
  | keep a _ ih => rw [PassesFrom, PassesFrom, ih]
  | @divide a b t rest fine h0 h1 _ ih =>
    have hparts := passes_divided (r := r) (s := s) (a := a) (b := b) (v := v) h0 h1
    rw [PassesFrom, ih, PassesFrom, PassesFrom, ← or_assoc, ← hparts, add_assoc,
      step_add_step a b h0.le h1.le]

end RefinesFrom

/-! ## Samples between the vertices -/

noncomputable def knotsFrom (r : ℝ) (a : Vertex ℝ) (rest : List (Vertex ℝ)) : List (ℝ × Vertex ℝ) :=
  (arcLengthsFrom r a rest).zip (a :: rest)

theorem knotsFrom_cons (r : ℝ) (a b : Vertex ℝ) (rest : List (Vertex ℝ)) :
    knotsFrom r a (b :: rest) = (r, a) :: knotsFrom (r + step a b) b rest := rfl

theorem placeAt_cons (x s : ℝ) (v : Vertex ℝ) (rest : List (ℝ × Vertex ℝ)) :
    placeAt x ((s, v) :: rest) = placeFrom x s v rest := if_pos (ExactSums.isNumber x)

section Places

variable {r x : ℝ} {a b : Vertex ℝ} {rest : List (Vertex ℝ)}

theorem placeAt_beyond (h : r + step a b ≤ x) :
    placeAt x (knotsFrom r a (b :: rest)) = placeAt x (knotsFrom (r + step a b) b rest) := by
  rw [knotsFrom_cons, placeAt_cons]
  cases rest with
  | nil =>
    rw [knotsFrom, arcLengthsFrom, List.zip_cons_cons, placeAt_cons, placeFrom, if_pos h]
  | cons c rest =>
    rw [knotsFrom_cons, placeAt_cons, placeFrom, if_pos h]

theorem blend_eq (x s t c d : ℝ) : blend x s t c d = c + (x - s) / (t - s) * (d - c) := by
  rw [blend]
  have hnumber : Scalar.isNumber ((d - c) / (t - s) * (x - s) + c) = true := ExactSums.isNumber _
  rw [if_pos hnumber]
  ring

theorem placeAt_within (h0 : r ≤ x) (h1 : x < r + step a b) :
    placeAt x (knotsFrom r a (b :: rest)) = vertexBetween a b ((x - r) / step a b) := by
  have hplace : placeAt x (knotsFrom r a (b :: rest)) = if x ≤ r then a else
      ⟨blend x r (r + step a b) a.x b.x, blend x r (r + step a b) a.y b.y,
        blend x r (r + step a b) a.z b.z⟩ := by
    rw [knotsFrom_cons, placeAt_cons]
    cases rest with
    | nil => rw [knotsFrom, arcLengthsFrom, List.zip_cons_cons, placeFrom, if_neg (not_le.2 h1)]
    | cons c rest => rw [knotsFrom_cons, placeFrom, if_neg (not_le.2 h1)]
  rw [hplace]
  split
  next h =>
    rw [le_antisymm h h0, sub_self, zero_div, vertexBetween_zero]
  next =>
    rw [blend_eq, blend_eq, blend_eq, add_sub_cancel_left, vertexBetween]

theorem placeAt_divided {t y : ℝ} (h0 : 0 ≤ t) (h1 : t < 1) (hstep : 0 < step a b)
    (hx : x = r + t * step a b) (hy : x ≤ y) :
    placeAt y (knotsFrom x (vertexBetween a b t) (b :: rest)) =
      placeAt y (knotsFrom r a (b :: rest)) := by
  have hleft : step (vertexBetween a b t) b = (1 - t) * step a b := step_vertexBetween_stop a b h1.le
  have hend : x + step (vertexBetween a b t) b = r + step a b := by
    rw [hleft, hx]
    ring
  rcases le_or_gt (r + step a b) y with hbeyond | hwithin
  · rw [placeAt_beyond hbeyond, placeAt_beyond (hend ▸ hbeyond), hend]
  · have hstart : r ≤ x := hx ▸ le_add_of_nonneg_right (mul_nonneg h0 hstep.le)
    have hrest : 1 - t ≠ 0 := (sub_pos.2 h1).ne'
    rw [placeAt_within (hstart.trans hy) hwithin, placeAt_within hy (hend ▸ hwithin),
      vertexBetween_after, hleft, hx]
    congr 1
    field_simp
    ring

end Places

theorem le_of_mem_arcLengthsFrom {r x : ℝ} {a : Vertex ℝ} {rest : List (Vertex ℝ)}
    (h : x ∈ arcLengthsFrom r a rest) : r ≤ x ∧ x ≤ planarLengthFrom r a rest := by
  induction rest generalizing r a with
  | nil =>
    obtain rfl := List.mem_singleton.1 h
    exact ⟨le_rfl, le_rfl⟩
  | cons b rest ih =>
    rcases List.mem_cons.1 h with rfl | h
    · exact ⟨le_rfl, le_planarLengthFrom _ a (b :: rest)⟩
    · obtain ⟨hstart, hstop⟩ := ih h
      exact ⟨(le_add_of_nonneg_right (step_nonneg a b)).trans hstart, hstop⟩

theorem start_mem_arcLengthsFrom (r : ℝ) (a : Vertex ℝ) (rest : List (Vertex ℝ)) :
    r ∈ arcLengthsFrom r a rest := by
  cases rest <;> simp [arcLengthsFrom]

theorem stop_mem_arcLengthsFrom (r : ℝ) (a : Vertex ℝ) (rest : List (Vertex ℝ)) :
    planarLengthFrom r a rest ∈ arcLengthsFrom r a rest := by
  induction rest generalizing r a with
  | nil => exact List.mem_singleton_self r
  | cons b rest ih => exact List.mem_cons_of_mem r (ih _ b)

theorem pairwise_arcLengthsFrom {r : ℝ} {a : Vertex ℝ} {rest : List (Vertex ℝ)}
    (h : NoRepeats (a :: rest)) :
    (arcLengthsFrom r a rest).Pairwise (· < ·) := by
  induction rest generalizing r a with
  | nil => exact List.pairwise_singleton _ _
  | cons b rest ih =>
    obtain ⟨hflat, hrest⟩ := List.isChain_cons_cons.1 h
    refine List.pairwise_cons.2 ⟨fun x hx => ?_, ih hrest⟩
    exact (lt_add_of_pos_right r (step_pos hflat)).trans_le (le_of_mem_arcLengthsFrom hx).1

theorem placeAt_start {r : ℝ} {a : Vertex ℝ} {rest : List (Vertex ℝ)}
    (h : NoRepeats (a :: rest)) : placeAt r (knotsFrom r a rest) = a := by
  cases rest with
  | nil => exact placeAt_cons r r a []
  | cons b rest =>
    have hpos := step_pos (List.isChain_cons_cons.1 h).1
    rw [placeAt_within le_rfl (lt_add_of_pos_right r hpos), sub_self, zero_div, vertexBetween_zero]

theorem map_placeAt_arcLengthsFrom {r : ℝ} {a : Vertex ℝ} {rest : List (Vertex ℝ)}
    (h : NoRepeats (a :: rest)) :
    (arcLengthsFrom r a rest).map (fun x => placeAt x (knotsFrom r a rest)) = a :: rest := by
  induction rest generalizing r a with
  | nil => rw [arcLengthsFrom, List.map_singleton, placeAt_start h]
  | cons b rest ih =>
    rw [arcLengthsFrom, List.map_cons, placeAt_start h]
    have hbeyond : ∀ x ∈ arcLengthsFrom (r + step a b) b rest,
        placeAt x (knotsFrom r a (b :: rest)) = placeAt x (knotsFrom (r + step a b) b rest) :=
      fun x hx => placeAt_beyond (le_of_mem_arcLengthsFrom hx).1
    rw [List.map_congr_left hbeyond, ih (List.isChain_cons_cons.1 h).2]

theorem exists_division {r x : ℝ} {a b : Vertex ℝ} (h0 : r < x) (h1 : x < r + step a b) :
    ∃ t, 0 < t ∧ t < 1 ∧ x = r + t * step a b ∧ r + step a (vertexBetween a b t) = x ∧
      x + step (vertexBetween a b t) b = r + step a b ∧ (vertexBetween a b t).flat ≠ b.flat := by
  have hpos : 0 < step a b := by linarith
  have hshare : (x - r) / step a b * step a b = x - r := div_mul_cancel₀ _ hpos.ne'
  have ht0 : 0 < (x - r) / step a b := div_pos (sub_pos.2 h0) hpos
  have ht1 : (x - r) / step a b < 1 := (div_lt_one hpos).2 (by linarith)
  have hstart : r + step a (vertexBetween a b ((x - r) / step a b)) = x := by
    rw [step_vertexBetween_start a b ht0.le, hshare, add_sub_cancel]
  have hstop : x + step (vertexBetween a b ((x - r) / step a b)) b = r + step a b := by
    linarith [step_add_step a b ht0.le ht1.le]
  refine ⟨_, ht0, ht1, by rw [hshare, add_sub_cancel], hstart, hstop, fun he => ?_⟩
  rw [step_of_eq he, add_zero] at hstop
  exact h1.ne hstop

/-- Samples at ascending positions among which are the arc lengths of all vertices refine a
polyline, and their arc lengths are these positions. -/
theorem refinesFrom_samples {r : ℝ} {a : Vertex ℝ} {rest : List (Vertex ℝ)} {xs : List ℝ}
    (hline : NoRepeats (a :: rest)) (hsorted : (r :: xs).Pairwise (· < ·))
    (hmem : ∀ x ∈ arcLengthsFrom r a rest, x ∈ r :: xs)
    (hend : ∀ x ∈ xs, x ≤ planarLengthFrom r a rest) :
    ∃ fine, (r :: xs).map (fun x => placeAt x (knotsFrom r a rest)) = a :: fine ∧
      RefinesFrom a rest fine ∧ arcLengthsFrom r a fine = r :: xs := by
  induction xs generalizing r a rest with
  | nil =>
    cases rest with
    | nil => exact ⟨[], congrArg (· :: []) (placeAt_start hline), .stop a, rfl⟩
    | cons b rest =>
      have hb := hmem _ (List.mem_cons_of_mem r (start_mem_arcLengthsFrom (r + step a b) b rest))
      have hpos := step_pos (List.isChain_cons_cons.1 hline).1
      exact absurd (List.mem_singleton.1 hb) (by linarith)
  | cons x xs ih =>
    obtain ⟨hx, hrest⟩ := List.pairwise_cons.1 hsorted
    have hlt : r < x := hx x (by simp)
    cases rest with
    | nil => exact absurd (hend x (by simp)) (not_le.2 hlt)
    | cons b rest =>
      obtain ⟨hflat, hchain⟩ := List.isChain_cons_cons.1 hline
      have hfrom : ∀ y ∈ x :: xs, x ≤ y :=
        List.forall_mem_cons.2 ⟨le_rfl, fun y hy => ((List.pairwise_cons.1 hrest).1 y hy).le⟩
      have hlater : ∀ y ∈ arcLengthsFrom (r + step a b) b rest, y ∈ x :: xs := by
        intro y hy
        have hr : r < y :=
          (lt_add_of_pos_right r (step_pos hflat)).trans_le (le_of_mem_arcLengthsFrom hy).1
        exact (List.mem_cons.1 (hmem y (List.mem_cons_of_mem r hy))).resolve_left hr.ne'
      have hnext : x ≤ r + step a b := hfrom _ (hlater _ (start_mem_arcLengthsFrom _ b rest))
      rw [List.map_cons, placeAt_start hline]
      rcases hnext.eq_or_lt with rfl | hwithin
      · -- the next sample is the next vertex
        obtain ⟨fine, hmap, hrefines, harcs⟩ :=
          ih hchain hrest hlater fun y hy => hend y (List.mem_cons_of_mem _ hy)
        refine ⟨b :: fine, ?_, .keep a hrefines, by rw [arcLengthsFrom, harcs]⟩
        rw [List.map_congr_left fun y hy => placeAt_beyond (hfrom y hy), hmap]
      · -- the next sample divides the piece
        obtain ⟨t, h0, h1, hxt, hstart, hstop, hdiffer⟩ := exists_division hlt hwithin
        have hmem' : ∀ y ∈ arcLengthsFrom x (vertexBetween a b t) (b :: rest), y ∈ x :: xs := by
          rw [arcLengthsFrom, hstop]
          exact List.forall_mem_cons.2 ⟨List.mem_cons_self, hlater⟩
        have hend' : ∀ y ∈ xs, y ≤ planarLengthFrom x (vertexBetween a b t) (b :: rest) := by
          rw [planarLengthFrom, hstop]
          exact fun y hy => hend y (List.mem_cons_of_mem _ hy)
        obtain ⟨fine, hmap, hrefines, harcs⟩ :=
          ih (List.isChain_cons_cons.2 ⟨hdiffer, hchain⟩) hrest hmem' hend'
        refine ⟨vertexBetween a b t :: fine, ?_, .divide h0 h1 hrefines, ?_⟩
        · rw [← hmap]
          refine congrArg _ (List.map_congr_left fun y hy => ?_)
          exact (placeAt_divided h0.le h1 (step_pos hflat) hxt (hfrom y hy)).symm
        · rw [arcLengthsFrom, hstart, harcs]

end LaneRoute.Polyline
