import LaneRoute.Proofs.Geometry.Refinements
import LaneRoute.Proofs.Fallible
import Mathlib.Data.List.NodupEquivFin

/-!
# Resampling

A polyline of some length is resampled into a refinement of what it is without repeats, whose arc
lengths are the sample positions. So the vertices stay, neighbors are within the resolution, and
what is passed after which distance stays, too; sampled again, nothing is added.
-/

set_option autoImplicit false

namespace LaneRoute.Polyline

/-! ## Sample positions of a polyline -/

noncomputable def samples (line : Polyline ℝ) (resolution : ℝ) : List ℝ :=
  merged (evenly (planarLength line) (count (planarLength line) resolution)) (arcLengths line)

theorem resample_eq {line : Polyline ℝ} (h : 0 < planarLength line) (resolution : ℝ) :
    resample line resolution = .ok ((samples (withoutRepeats line) resolution).map fun x =>
      placeAt x (knots (withoutRepeats line))) := by
  have hlength : ¬ List.length (withoutRepeats line) < 2 :=
    not_lt.2 (two_le_length_withoutRepeats h)
  simp only [resample, if_neg hlength, pieceCount_eq]
  rfl

section Chains

variable {a : Vertex ℝ} {rest : List (Vertex ℝ)} (hline : NoRepeats (a :: rest))

include hline

theorem mem_samples {resolution x : ℝ} : x ∈ samples (a :: rest) resolution ↔
    x ∈ evenly (planarLength (a :: rest)) (count (planarLength (a :: rest)) resolution) ∨
      x ∈ arcLengths (a :: rest) :=
  mem_merged (pairwise_evenly (count_pos _ _) (le_planarLengthFrom 0 a rest))
    ((pairwise_arcLengthsFrom hline).imp le_of_lt)

theorem pairwise_samples (resolution : ℝ) :
    (samples (a :: rest) resolution).Pairwise (· < ·) :=
  pairwise_merged (pairwise_evenly (count_pos _ _) (le_planarLengthFrom 0 a rest))
    ((pairwise_arcLengthsFrom hline).imp le_of_lt)

theorem mem_samples_bounds {resolution x : ℝ} (h : x ∈ samples (a :: rest) resolution) :
    0 ≤ x ∧ x ≤ planarLength (a :: rest) := by
  rcases (mem_samples hline).1 h with heven | harc
  · exact mem_evenly_bounds (count_pos _ _) (le_planarLengthFrom 0 a rest) heven
  · exact le_of_mem_arcLengthsFrom harc

theorem exists_samples_cons (resolution : ℝ) :
    ∃ xs, samples (a :: rest) resolution = 0 :: xs := by
  have hzero : (0 : ℝ) ∈ samples (a :: rest) resolution :=
    (mem_samples hline).2 (Or.inr (start_mem_arcLengthsFrom 0 a rest))
  have hsorted := pairwise_samples hline resolution
  have hbounds : ∀ x ∈ samples (a :: rest) resolution, 0 ≤ x :=
    fun x hx => (mem_samples_bounds hline hx).1
  cases hsamples : samples (a :: rest) resolution with
  | nil => simp [hsamples] at hzero
  | cons x xs =>
    rw [hsamples] at hzero hsorted hbounds
    rcases List.mem_cons.1 hzero with rfl | hlater
    · exact ⟨xs, rfl⟩
    · have hlt := (List.pairwise_cons.1 hsorted).1 0 hlater
      exact absurd (hbounds x List.mem_cons_self) (not_le.2 hlt)

theorem exists_refined (resolution : ℝ) :
    ∃ fine, (samples (a :: rest) resolution).map (fun x => placeAt x (knots (a :: rest)))
        = a :: fine ∧
      RefinesFrom a rest fine ∧ arcLengths (a :: fine) = samples (a :: rest) resolution := by
  obtain ⟨xs, hxs⟩ := exists_samples_cons hline resolution
  have hsorted := pairwise_samples hline resolution
  rw [hxs] at hsorted ⊢
  refine refinesFrom_samples hline hsorted (fun x hx => ?_) fun x hx => ?_
  · exact hxs ▸ (mem_samples hline).2 (Or.inr hx)
  · exact (mem_samples_bounds hline (hxs ▸ List.mem_cons_of_mem 0 hx)).2

theorem resample_of_evenly_subset (hlength : 0 < planarLength (a :: rest)) {resolution : ℝ}
    (h : ∀ x ∈ evenly (planarLength (a :: rest)) (count (planarLength (a :: rest)) resolution),
      x ∈ arcLengths (a :: rest)) : resample (a :: rest) resolution = .ok (a :: rest) := by
  have hkept : withoutRepeats (a :: rest) = a :: rest :=
    congrArg (a :: ·) (withoutRepeatsFrom_of_noRepeats hline)
  have hsamples : samples (a :: rest) resolution = arcLengths (a :: rest) := by
    refine (pairwise_samples hline resolution).eq_of_mem_iff (pairwise_arcLengthsFrom hline) ?_
    exact fun x => (mem_samples hline).trans (or_iff_right_of_imp (h x))
  rw [resample_eq hlength, hkept, hsamples]
  exact congrArg Except.ok (map_placeAt_arcLengthsFrom hline)

end Chains

theorem resample_of_length_le {a : Vertex ℝ} {rest : List (Vertex ℝ)}
    (hline : NoRepeats (a :: rest)) (hlength : 0 < planarLength (a :: rest)) {resolution : ℝ}
    (h : planarLength (a :: rest) ≤ resolution) :
    resample (a :: rest) resolution = .ok (a :: rest) := by
  refine resample_of_evenly_subset hline hlength fun x hx => ?_
  rw [count_of_le (hlength.trans_le h) h] at hx
  obtain ⟨i, hi, rfl⟩ := (mem_evenly Nat.one_pos).1 hx
  rw [Nat.cast_one, div_one]
  obtain rfl | rfl : i = 0 ∨ i = 1 := by omega
  · rw [Nat.cast_zero, zero_mul]
    exact start_mem_arcLengthsFrom 0 a rest
  · rw [Nat.cast_one, one_mul]
    exact stop_mem_arcLengthsFrom 0 a rest

theorem step_le_of_isChain {s resolution : ℝ} {a : Vertex ℝ} {rest : List (Vertex ℝ)}
    (h : (arcLengthsFrom s a rest).IsChain fun x y => x < y ∧ y - x ≤ resolution) {k : Nat}
    {b c : Vertex ℝ} (hpiece : IsPiece (a :: rest) k b c) : step b c ≤ resolution := by
  induction rest generalizing s a k with
  | nil => cases hpiece.2
  | cons d rest ih =>
    cases k with
    | zero =>
      obtain rfl := Option.some.inj hpiece.1
      obtain rfl := Option.some.inj hpiece.2
      obtain ⟨later, hlater⟩ : ∃ later, arcLengthsFrom (s + step a d) d rest =
          (s + step a d) :: later := by cases rest <;> exact ⟨_, rfl⟩
      rw [arcLengthsFrom, hlater] at h
      have hclose := (List.isChain_cons_cons.1 h).1.2
      rwa [add_sub_cancel_left] at hclose
    | succ k => exact ih (List.IsChain.tail h) hpiece

/-! ## A polyline and its samples -/

/-- What a polyline is without repeats, and the vertices that resampling adds to it. -/
structure Resampled (line : Polyline ℝ) (resolution : ℝ) (a : Vertex ℝ)
    (rest fine : List (Vertex ℝ)) : Prop where
  kept : withoutRepeats line = a :: rest
  noRepeats : NoRepeats (a :: rest)
  result : resample line resolution = .ok (a :: fine)
  refines : RefinesFrom a rest fine
  arcs : arcLengths (a :: fine) = samples (a :: rest) resolution

theorem exists_resampled {line : Polyline ℝ} (h : 0 < planarLength line) (resolution : ℝ) :
    ∃ a rest fine, Resampled line resolution a rest fine := by
  have hresult := resample_eq h resolution
  cases line with
  | nil => exact absurd h (lt_irrefl 0)
  | cons a tail =>
    have hchain := noRepeats_withoutRepeatsFrom (v := a) rfl tail
    obtain ⟨fine, hmap, hrefines, harcs⟩ := exists_refined hchain resolution
    exact ⟨a, withoutRepeatsFrom a tail, fine, rfl, hchain,
      hresult.trans (congrArg Except.ok hmap), hrefines, harcs⟩

namespace Resampled

variable {line : Polyline ℝ} {resolution : ℝ} {a : Vertex ℝ} {rest fine : List (Vertex ℝ)}
  (h : Resampled line resolution a rest fine)

include h

theorem planarLength_eq : planarLength (a :: fine) = planarLength line := by
  rw [← planarLength_withoutRepeats line, h.kept]
  exact h.refines.planarLengthFrom_eq 0

theorem passes_iff (hline : Stepless line) {s : ℝ} {v : Vertex ℝ} :
    Passes (a :: fine) s v ↔ Passes line s v := by
  rw [← passes_withoutRepeats hline, h.kept]
  exact h.refines.passesFrom_iff

theorem isFirstNearest_iff (hline : Stepless line) {p : Point ℝ} {v : Vertex ℝ} :
    IsFirstNearest p (a :: fine) v ↔ IsFirstNearest p line v := by
  simp only [IsFirstNearest, h.passes_iff hline]

theorem again (hlength : 0 < planarLength line) :
    resample (a :: fine) resolution = .ok (a :: fine) := by
  have hsame : planarLength (a :: fine) = planarLength (a :: rest) :=
    h.refines.planarLengthFrom_eq 0
  refine resample_of_evenly_subset (h.refines.noRepeats h.noRepeats)
    (h.planarLength_eq ▸ hlength) fun x heven => ?_
  rw [h.arcs]
  exact (mem_samples h.noRepeats).2 (Or.inl (hsame ▸ heven))

theorem isChain_arcLengths (hlength : 0 < planarLength line) (hresolution : 0 < resolution) :
    (arcLengths (a :: fine)).IsChain fun s t => s < t ∧ t - s ≤ resolution := by
  have hpos : 0 < planarLength (a :: rest) := by
    rwa [← h.kept, planarLength_withoutRepeats]
  rw [h.arcs]
  have hclose := isChain_close (count_pos (planarLength (a :: rest)) resolution) hpos
    (pairwise_samples h.noRepeats resolution) (fun x hx => (mem_samples h.noRepeats).2 (Or.inl hx))
    fun x hx => mem_samples_bounds h.noRepeats hx
  exact hclose.imp fun s t hst => ⟨hst.1, hst.2.trans (div_count_le hresolution)⟩

end Resampled

/-- Resampling at any resolution leaves the vertical projection of a point as it is. -/
theorem exists_projection {line : Polyline ℝ} (hlength : 0 < planarLength line)
    (hline : Stepless line) (p : Point ℝ) :
    ∃ v, project? line p = some v ∧ IsFirstNearest p line v ∧
      ∀ resolution, ∃ fine, resample line resolution = .ok fine ∧ project? fine p = some v := by
  obtain ⟨v, hproject, hfirst⟩ := isFirstNearest_project (two_le_length hlength) p
  refine ⟨v, hproject, hfirst, fun resolution => ?_⟩
  obtain ⟨a, rest, fine, h⟩ := exists_resampled hlength resolution
  have hfine : 0 < planarLength (a :: fine) := h.planarLength_eq ▸ hlength
  obtain ⟨w, hw, hwfirst⟩ := isFirstNearest_project (two_le_length hfine) p
  obtain rfl := isFirstNearest_unique hline ((h.isFirstNearest_iff hline).1 hwfirst) hfirst
  exact ⟨a :: fine, h.result, hw⟩

/-! ## Vertices kept in order -/

/-- The vertices of a polyline are vertices of another one, and come there in the same order. -/
def KeptIn (coarse fine : Polyline ℝ) : Prop :=
  ∃ place : Nat → Nat, Monotone place ∧ ∀ i v, coarse[i]? = some v → fine[place i]? = some v

theorem KeptIn.trans {line mid fine : Polyline ℝ} (h : KeptIn line mid) (h' : KeptIn mid fine) :
    KeptIn line fine := by
  obtain ⟨place, hplace, hkept⟩ := h
  obtain ⟨place', hplace', hkept'⟩ := h'
  exact ⟨place' ∘ place, hplace'.comp hplace, fun i v hi => hkept' _ v (hkept i v hi)⟩

theorem keptIn_of_sublist {line fine : Polyline ℝ} (h : List.Sublist line fine) :
    KeptIn line fine := by
  obtain ⟨place, hplace⟩ := List.sublist_iff_exists_orderEmbedding_getElem?_eq.1 h
  exact ⟨place, place.monotone, fun i v hi => (hplace i).symm.trans hi⟩

theorem keptIn_withoutRepeatsFrom {a : Vertex ℝ} {rest : List (Vertex ℝ)}
    (h : Stepless (a :: rest)) : KeptIn (a :: rest) (a :: withoutRepeatsFrom a rest) := by
  induction rest generalizing a with
  | nil => exact ⟨id, monotone_id, fun i v hi => hi⟩
  | cons b rest ih =>
    obtain ⟨hab, hrest⟩ := List.isChain_cons_cons.1 h
    obtain ⟨place, hplace, hkept⟩ := ih hrest
    by_cases hflat : a.flat = b.flat
    · obtain rfl := hab hflat
      rw [withoutRepeatsFrom_of_eq rfl]
      refine ⟨fun i => place (i - 1), hplace.comp fun i j hij => Nat.sub_le_sub_right hij 1, ?_⟩
      intro i v hi
      cases i with
      | zero => exact hkept 0 v hi
      | succ i => exact hkept i v hi
    · rw [withoutRepeatsFrom_of_ne hflat]
      refine ⟨fun i => if i = 0 then 0 else place (i - 1) + 1, fun i j hij => ?_, fun i v hi => ?_⟩
      · cases i with
        | zero => simp
        | succ i =>
          cases j with
          | zero => omega
          | succ j => simpa using hplace (Nat.le_of_succ_le_succ hij)
      · cases i with
        | zero => exact hi
        | succ i => exact hkept i v hi

theorem getLast?_withoutRepeatsFrom {a : Vertex ℝ} {rest : List (Vertex ℝ)}
    (h : Stepless (a :: rest)) :
    (a :: withoutRepeatsFrom a rest).getLast? = (a :: rest).getLast? := by
  induction rest generalizing a with
  | nil => rfl
  | cons b rest ih =>
    obtain ⟨hab, hrest⟩ := List.isChain_cons_cons.1 h
    rw [List.getLast?_cons_cons, ← ih hrest]
    by_cases hflat : a.flat = b.flat
    · rw [withoutRepeatsFrom_of_eq hflat, hab hflat]
    · rw [withoutRepeatsFrom_of_ne hflat, List.getLast?_cons_cons]

theorem head?_withoutRepeats (line : Polyline ℝ) : (withoutRepeats line).head? = line.head? := by
  cases line <;> rfl

theorem getLast?_withoutRepeats {line : Polyline ℝ} (h : Stepless line) :
    (withoutRepeats line).getLast? = line.getLast? := by
  cases line with
  | nil => rfl
  | cons a rest => exact getLast?_withoutRepeatsFrom h

theorem keptIn_withoutRepeats {line : Polyline ℝ} (h : Stepless line) :
    KeptIn line (withoutRepeats line) := by
  cases line with
  | nil => exact ⟨id, monotone_id, fun i v hi => hi⟩
  | cons a rest => exact keptIn_withoutRepeatsFrom h

/-- A polyline with vertices at two places, in which nothing stands above what precedes it, is
resampled at every resolution: into a polyline from its start to its end that keeps its vertices in
order, goes on from vertex to vertex by at most the resolution, has at each vertex what the polyline
passes after the arc length of the vertex, and is resampled into itself. -/
theorem resample_refines {line : Polyline ℝ} (hplaces : ∃ v ∈ line, ∃ w ∈ line, v.flat ≠ w.flat)
    (hline : Stepless line) {resolution : ℝ} (hresolution : 0 < resolution) :
    ∃ fine, resample line resolution = .ok fine ∧
      fine.head? = line.head? ∧ fine.getLast? = line.getLast? ∧ KeptIn line fine ∧
      (arcLengths fine).IsChain (fun s t => s < t ∧ t - s ≤ resolution) ∧
      (∀ s v, (s, v) ∈ knots fine → ∀ w, Passes line s w ↔ w = v) ∧
      resample fine resolution = .ok fine := by
  obtain ⟨v, hv, w, hw, hflat⟩ := hplaces
  have hlength := planarLength_pos hv hw hflat
  obtain ⟨a, rest, fine, h⟩ := exists_resampled hlength resolution
  refine ⟨a :: fine, h.result, ?head, ?last, ?kept, h.isChain_arcLengths hlength hresolution,
    ?passed, h.again hlength⟩
  case head =>
    rw [← head?_withoutRepeats line, h.kept]
    rfl
  case last => rw [h.refines.getLast?_eq, ← h.kept, getLast?_withoutRepeats hline]
  case kept =>
    have hkept := keptIn_withoutRepeats hline
    rw [h.kept] at hkept
    exact hkept.trans (keptIn_of_sublist (h.refines.sublist.cons_cons a))
  case passed =>
    intro s u hu w
    have hpasses := (h.passes_iff hline).1 (passes_of_mem_knots hu)
    exact ⟨fun hw => passes_unique hline hw hpasses, fun hw => hw ▸ hpasses⟩

/-! ## A climb, then level -/

def climb : Polyline ℝ := [⟨-1, 0, 0⟩, ⟨0, 0, 1⟩, ⟨0, 0, 1⟩, ⟨1, 0, 1⟩]

theorem stepless_climb : Stepless climb := by
  simp [Stepless, climb, Vertex.flat]

/-- A resolution that is no divisor of the pieces keeps the vertex where the grade changes. -/
theorem climb_resampled : (∃ v ∈ climb, ∃ w ∈ climb, v.flat ≠ w.flat) ∧ Stepless climb ∧
    (0 : ℝ) < 2 / 3 ∧ ∃ fine, resample climb (2 / 3) = .ok fine ∧
      resample fine (2 / 3) = .ok fine ∧ fine.head? = some ⟨-1, 0, 0⟩ ∧
      fine.getLast? = some ⟨1, 0, 1⟩ ∧ ⟨0, 0, 1⟩ ∈ fine := by
  have hplaces : ∃ v ∈ climb, ∃ w ∈ climb, v.flat ≠ w.flat :=
    ⟨⟨-1, 0, 0⟩, by simp [climb], ⟨0, 0, 1⟩, by simp [climb], by simp [Vertex.flat]⟩
  have hpositive : (0 : ℝ) < 2 / 3 := by norm_num
  obtain ⟨fine, hfine, hhead, hlast, ⟨place, -, hkept⟩, -, -, hagain⟩ :=
    resample_refines hplaces stepless_climb hpositive
  exact ⟨hplaces, stepless_climb, hpositive, fine, hfine, hagain, hhead, hlast,
    List.mem_of_getElem? (hkept 1 _ rfl)⟩

end LaneRoute.Polyline
