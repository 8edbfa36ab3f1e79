import LaneRoute.Proofs.Geometry.Repeats
import Mathlib.Data.List.Destutter
import Mathlib.Data.List.Sort

/-!
# Sample positions

The positions at which a polyline is sampled: evenly spaced ones together with the arc lengths of
its vertices, ascending and each once. As the evenly spaced ones are among them, no two neighbors
are farther apart than those.
-/

set_option autoImplicit false

namespace LaneRoute.Polyline

open Scalar LaneRoute.Ring

/-! ## Ascending lists -/

theorem woven_eq_merge (xs ys : List ℝ) : woven xs ys = xs.merge ys fun x y => decide (x ≤ y) := by
  induction xs generalizing ys with
  | nil => simp [woven]
  | cons x xs ih =>
    rw [woven]
    induction ys with
    | nil => simp [afterLesser, ih]
    | cons y ys ihy =>
      rw [afterLesser, List.merge]
      by_cases h : x ≤ y
      · simp [h, ih]
      · simp [h, ihy]

theorem distinctFrom_eq_destutter (x : ℝ) (ys : List ℝ) :
    distinctFrom x ys = (x :: ys).destutter (· ≠ ·) := by
  rw [List.destutter_cons']
  induction ys generalizing x with
  | nil => rfl
  | cons y ys ih =>
    rw [distinctFrom]
    by_cases h : x = y
    · rw [if_pos (agrees_iff.2 h), List.destutter'_cons_neg _ (not_not.2 h), ih]
    · rw [if_neg (mt agrees_iff.1 h), List.destutter'_cons_pos _ h, ih]

theorem merged_eq_dedup {xs ys : List ℝ} (hx : xs.Pairwise (· ≤ ·)) (hy : ys.Pairwise (· ≤ ·)) :
    merged xs ys = (xs.merge ys fun x y => decide (x ≤ y)).dedup := by
  have hsorted := hx.merge hy
  rw [← hsorted.destutter_eq_dedup, merged, woven_eq_merge]
  cases xs.merge ys fun x y => decide (x ≤ y) with
  | nil => rfl
  | cons x rest => exact distinctFrom_eq_destutter x rest

theorem mem_merged {xs ys : List ℝ} (hx : xs.Pairwise (· ≤ ·)) (hy : ys.Pairwise (· ≤ ·)) {x : ℝ} :
    x ∈ merged xs ys ↔ x ∈ xs ∨ x ∈ ys := by
  rw [merged_eq_dedup hx hy, List.mem_dedup, List.mem_merge]

theorem pairwise_merged {xs ys : List ℝ} (hx : xs.Pairwise (· ≤ ·)) (hy : ys.Pairwise (· ≤ ·)) :
    (merged xs ys).Pairwise (· < ·) := by
  have hsorted : (merged xs ys).Pairwise (· ≤ ·) := by
    rw [merged_eq_dedup hx hy]
    exact (hx.merge hy).sublist (List.dedup_sublist _)
  have hdistinct : (merged xs ys).Nodup := by
    rw [merged_eq_dedup hx hy]
    exact List.nodup_dedup _
  exact (hsorted.and hdistinct).imp fun h => lt_of_le_of_ne h.1 h.2

/-! ## Evenly spaced positions -/

section Even

variable {stop : ℝ} {n : Nat}

theorem mem_evenly (hn : 0 < n) {x : ℝ} :
    x ∈ evenly stop n ↔ ∃ i : Nat, i ≤ n ∧ x = i * (stop / n) := by
  have hstop : (n : ℝ) * (stop / n) = stop := mul_div_cancel₀ stop (Nat.cast_pos.2 hn).ne'
  rw [evenly, List.mem_append, List.mem_map, List.mem_singleton]
  constructor
  · rintro (⟨i, hi, rfl⟩ | rfl)
    · exact ⟨i, (List.mem_range.1 hi).le, rfl⟩
    · exact ⟨n, le_rfl, hstop.symm⟩
  · rintro ⟨i, hi, rfl⟩
    rcases hi.lt_or_eq with hlt | rfl
    · exact Or.inl ⟨i, List.mem_range.2 hlt, rfl⟩
    · exact Or.inr hstop

theorem mem_evenly_bounds (hn : 0 < n) (h : 0 ≤ stop) {x : ℝ} (hx : x ∈ evenly stop n) :
    0 ≤ x ∧ x ≤ stop := by
  obtain ⟨i, hi, rfl⟩ := (mem_evenly hn).1 hx
  have hgap : 0 ≤ stop / n := div_nonneg h (Nat.cast_nonneg n)
  refine ⟨mul_nonneg (Nat.cast_nonneg i) hgap, ?_⟩
  calc (i : ℝ) * (stop / n) ≤ n * (stop / n) := by gcongr
    _ = stop := mul_div_cancel₀ stop (Nat.cast_pos.2 hn).ne'

theorem pairwise_evenly (hn : 0 < n) (h : 0 ≤ stop) : (evenly stop n).Pairwise (· ≤ ·) := by
  rw [evenly, List.pairwise_append]
  refine ⟨?_, List.pairwise_singleton _ _, fun x hx y hy => ?_⟩
  · rw [List.pairwise_map]
    refine List.pairwise_lt_range.imp fun {i j} hij => ?_
    exact mul_le_mul_of_nonneg_right (Nat.cast_le.2 hij.le) (div_nonneg h (Nat.cast_nonneg n))
  · rw [List.mem_singleton.1 hy]
    exact (mem_evenly_bounds hn h (List.mem_append_left _ hx)).2

theorem isChain_close {xs : List ℝ} (hn : 0 < n) (h : 0 < stop) (hsorted : xs.Pairwise (· < ·))
    (heven : ∀ x ∈ evenly stop n, x ∈ xs) (hbounds : ∀ x ∈ xs, 0 ≤ x ∧ x ≤ stop) :
    xs.IsChain fun x y => x < y ∧ y - x ≤ stop / n := by
  apply List.isChain_iff_forall_rel_of_append_cons_cons.2
  rintro x y before after rfl
  obtain ⟨-, hrest, hbefore⟩ := List.pairwise_append.1 hsorted
  obtain ⟨hx, hy⟩ := List.pairwise_cons.1 hrest
  have hlt : x < y := hx y (by simp)
  have hgap : 0 < stop / n := div_pos h (Nat.cast_pos.2 hn)
  refine ⟨hlt, ?_⟩
  -- the first evenly spaced position after `x` comes not before `y`
  set i := ⌊x / (stop / n)⌋₊
  have hle : (i : ℝ) * (stop / n) ≤ x :=
    (le_div_iff₀ hgap).1 (Nat.floor_le (div_nonneg (hbounds x (by simp)).1 hgap.le))
  have hnext : x < ((i + 1 : Nat) : ℝ) * (stop / n) := by
    rw [← div_lt_iff₀ hgap, Nat.cast_succ]
    exact Nat.lt_floor_add_one _
  have hi : i + 1 ≤ n := by
    have hstop : x < n * (stop / n) := by
      rw [mul_div_cancel₀ stop (Nat.cast_pos.2 hn).ne']
      exact hlt.trans_le (hbounds y (by simp)).2
    exact Nat.cast_lt.1 (lt_of_mul_lt_mul_right (hle.trans_lt hstop) hgap.le)
  have hmem := heven _ ((mem_evenly hn).2 ⟨i + 1, hi, rfl⟩)
  have hstep : y ≤ ((i + 1 : Nat) : ℝ) * (stop / n) := by
    rcases List.mem_append.1 hmem with hmem | hmem
    · exact absurd (hbefore _ hmem x (by simp)) (not_lt.2 hnext.le)
    · rcases List.mem_cons.1 hmem with heq | hmem
      · exact absurd heq hnext.ne'
      · rcases List.mem_cons.1 hmem with heq | hmem
        · exact heq.ge
        · exact ((List.pairwise_cons.1 hy).1 _ hmem).le
  rw [Nat.cast_succ, add_mul, one_mul] at hstep
  linarith

end Even

/-! ## How many pieces -/

noncomputable def count (total resolution : ℝ) : Nat := max ⌈total / resolution⌉.toNat 1

theorem pieceCount_eq (total resolution : ℝ) :
    pieceCount total resolution = .ok (count total resolution) := by
  have hnumber : isNumber (total / resolution) = true := ExactSums.isNumber _
  have hfinite : isFinite (total / resolution) = true := rfl
  have hcountable : isCountable (total / resolution) = true := rfl
  simp only [pieceCount, hnumber, hfinite, hcountable]
  rfl

theorem count_pos (total resolution : ℝ) : 0 < count total resolution :=
  Nat.lt_of_lt_of_le Nat.one_pos (le_max_right _ _)

theorem count_of_le {total resolution : ℝ} (hresolution : 0 < resolution)
    (h : total ≤ resolution) : count total resolution = 1 := by
  have hceil : ⌈total / resolution⌉ ≤ 1 :=
    Int.ceil_le.2 (by rw [Int.cast_one]; exact (div_le_one hresolution).2 h)
  exact max_eq_right (Int.toNat_le.2 hceil)

theorem div_count_le {total resolution : ℝ} (h : 0 < resolution) :
    total / count total resolution ≤ resolution := by
  have hcast : (0 : ℝ) < count total resolution := Nat.cast_pos.2 (count_pos _ _)
  have hceil : total / resolution ≤ count total resolution := by
    calc total / resolution ≤ (⌈total / resolution⌉ : ℝ) := Int.le_ceil _
      _ ≤ ((⌈total / resolution⌉.toNat : Int) : ℝ) := Int.cast_le.2 (Int.self_le_toNat _)
      _ = (⌈total / resolution⌉.toNat : ℝ) := Int.cast_natCast _
      _ ≤ count total resolution := Nat.cast_le.2 (le_max_left _ _)
  rw [div_le_iff₀ hcast, mul_comm]
  exact (div_le_iff₀ h).1 hceil

end LaneRoute.Polyline
