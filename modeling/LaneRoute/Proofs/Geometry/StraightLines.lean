import LaneRoute.Proofs.Geometry.NearestVertices
import LaneRoute.Proofs.Geometry.Resampling

/-!
# Straight polylines

On a straight polyline the nearer end of the nearest piece is a nearest vertex. Resampling keeps a
polyline straight.
-/

set_option autoImplicit false

namespace LaneRoute.Polyline

open Point LaneRoute.Ring

/-- The vertices are on the line through two points, and come there in order. -/
structure StraightAlong (a b : Point ℝ) (vertices : Polyline ℝ) : Prop where
  apart : a ≠ b
  on : ∀ v ∈ vertices, v.flat = between a b (part a b v.flat)
  ascends : vertices.Pairwise fun v w => part a b v.flat ≤ part a b w.flat

def Straight (vertices : Polyline ℝ) : Prop := ∃ a b, StraightAlong a b vertices

theorem part_between {a b : Point ℝ} (h : a ≠ b) (p q : Point ℝ) (t : ℝ) :
    part a b (between p q t) = part a b p + t * (part a b q - part a b p) := by
  have hpos := ahead_self_pos h
  simp only [part, between, ahead] at hpos ⊢
  field_simp
  ring

theorem between_between (a b : Point ℝ) (s t u : ℝ) :
    between (between a b s) (between a b t) u = between a b (s + u * (t - s)) := by
  simp only [between, Point.mk.injEq]
  constructor <;> ring

namespace StraightAlong

variable {a b : Point ℝ} {vertices : Polyline ℝ} {v : Vertex ℝ} {rest fine : List (Vertex ℝ)}

theorem sublist {kept : Polyline ℝ} (h : StraightAlong a b vertices)
    (hkept : kept.Sublist vertices) : StraightAlong a b kept :=
  ⟨h.apart, fun v hv => h.on v (hkept.subset hv), h.ascends.sublist hkept⟩

theorem cons_iff : StraightAlong a b (v :: rest) ↔ v.flat = between a b (part a b v.flat) ∧
    (∀ w ∈ rest, part a b v.flat ≤ part a b w.flat) ∧ StraightAlong a b rest := by
  constructor
  · rintro ⟨hne, hon, hascends⟩
    obtain ⟨hv, hrest⟩ := List.forall_mem_cons.1 hon
    obtain ⟨hfirst, hlater⟩ := List.pairwise_cons.1 hascends
    exact ⟨hv, hfirst, hne, hrest, hlater⟩
  · rintro ⟨hv, hfirst, hne, hrest, hlater⟩
    exact ⟨hne, List.forall_mem_cons.2 ⟨hv, hrest⟩, List.pairwise_cons.2 ⟨hfirst, hlater⟩⟩

theorem refine (h : StraightAlong a b (v :: rest)) (hfine : RefinesFrom v rest fine) :
    StraightAlong a b (v :: fine) := by
  induction hfine with
  | stop v => exact h
  | @keep v w rest fine _ ih =>
    obtain ⟨hv, hfirst, hrest⟩ := cons_iff.1 h
    have hfine := ih hrest
    refine cons_iff.2 ⟨hv, List.forall_mem_cons.2 ⟨hfirst w (by simp), fun u hu => ?_⟩, hfine⟩
    exact (hfirst w (by simp)).trans ((cons_iff.1 hfine).2.1 u hu)
  | @divide v w t rest fine h0 h1 _ ih =>
    obtain ⟨hv, hfirst, hrest⟩ := cons_iff.1 h
    obtain ⟨hw, hlater, -⟩ := cons_iff.1 hrest
    have hle : part a b v.flat ≤ part a b w.flat := hfirst w (by simp)
    have hpart : part a b (vertexBetween v w t).flat =
        part a b v.flat + t * (part a b w.flat - part a b v.flat) :=
      part_between h.apart v.flat w.flat t
    have hplace : (vertexBetween v w t).flat =
        between a b (part a b (vertexBetween v w t).flat) := by
      rw [hpart, ← between_between, ← hv, ← hw]
      rfl
    have hbefore : part a b v.flat ≤ part a b (vertexBetween v w t).flat := by
      rw [hpart]
      nlinarith
    have hafter : part a b (vertexBetween v w t).flat ≤ part a b w.flat := by
      rw [hpart]
      nlinarith
    have hdivided : StraightAlong a b (vertexBetween v w t :: w :: rest) :=
      cons_iff.2 ⟨hplace, List.forall_mem_cons.2
        ⟨hafter, fun u hu => hafter.trans (hlater u hu)⟩, hrest⟩
    have hfine := ih hdivided
    refine cons_iff.2 ⟨hv, List.forall_mem_cons.2 ⟨hbefore, fun u hu => ?_⟩, hfine⟩
    exact hbefore.trans ((cons_iff.1 hfine).2.1 u hu)

theorem strict (h : StraightAlong a b vertices) (hline : NoRepeats vertices) :
    vertices.Pairwise fun v w => part a b v.flat < part a b w.flat := by
  induction vertices with
  | nil => exact List.Pairwise.nil
  | cons v rest ih =>
    obtain ⟨hv, hfirst, hrest⟩ := cons_iff.1 h
    have hlater := ih hrest (List.IsChain.tail hline)
    refine List.pairwise_cons.2 ⟨fun u hu => ?_, hlater⟩
    cases rest with
    | nil => cases hu
    | cons w rest =>
      have hmoves : part a b v.flat ≠ part a b w.flat := fun he =>
        (List.isChain_cons_cons.1 hline).1 (by rw [hv, he, ← hrest.on w (by simp)])
      have hlt := lt_of_le_of_ne (hfirst w (by simp)) hmoves
      rcases List.mem_cons.1 hu with rfl | hu
      · exact hlt
      · exact hlt.trans ((List.pairwise_cons.1 hlater).1 u hu)

theorem lt_of_lt (h : StraightAlong a b vertices) (hline : NoRepeats vertices) {i j : Nat}
    {v w : Vertex ℝ} (hij : i < j) (hv : vertices[i]? = some v) (hw : vertices[j]? = some w) :
    part a b v.flat < part a b w.flat := by
  obtain ⟨hi, rfl⟩ := List.getElem?_eq_some_iff.1 hv
  obtain ⟨hj, rfl⟩ := List.getElem?_eq_some_iff.1 hw
  exact List.pairwise_iff_getElem.1 (h.strict hline) i j hi hj hij

section Distances

variable {p : Point ℝ} {w : Vertex ℝ} (h : StraightAlong a b vertices) (hv : v ∈ vertices)
  (hw : w ∈ vertices)

include h hv hw

theorem distance_le_iff : p.distance v.flat ≤ p.distance w.flat ↔
    |part a b p - part a b v.flat| ≤ |part a b p - part a b w.flat| := by
  rw [h.on v hv, h.on w hw, distance_between_le_iff h.apart, ← h.on v hv, ← h.on w hw]

theorem distance_lt_of_before (hbefore : part a b w.flat < part a b v.flat)
    (hahead : part a b v.flat ≤ part a b p) : p.distance v.flat < p.distance w.flat := by
  rw [lt_iff_lt_of_le_iff_le (h.distance_le_iff hw hv), abs_of_nonneg (sub_nonneg.2 hahead),
    abs_of_nonneg (sub_nonneg.2 (hbefore.le.trans hahead))]
  linarith

theorem distance_lt_of_after (hafter : part a b v.flat < part a b w.flat)
    (hbehind : part a b p ≤ part a b v.flat) : p.distance v.flat < p.distance w.flat := by
  rw [lt_iff_lt_of_le_iff_le (h.distance_le_iff hw hv), abs_of_nonpos (sub_nonpos.2 hbehind),
    abs_of_nonpos (sub_nonpos.2 (hbehind.trans hafter.le))]
  linarith

end Distances

end StraightAlong

/-! ## Ends of the nearest piece -/

theorem start_mem_piecePlaces (v w : Vertex ℝ) : v.flat ∈ piecePlaces v w :=
  ⟨0, le_rfl, zero_le_one, by simp [between]⟩

theorem stop_mem_piecePlaces (v w : Vertex ℝ) : w.flat ∈ piecePlaces v w :=
  ⟨1, zero_le_one, le_rfl, by simp [between]⟩

theorem mem_places {vertices : Polyline ℝ} (h : 2 ≤ List.length vertices) {v : Vertex ℝ}
    (hv : v ∈ vertices) : v.flat ∈ places vertices := by
  obtain ⟨i, hi⟩ := List.mem_iff_getElem?.1 hv
  cases i with
  | zero =>
    obtain ⟨w, hw⟩ : ∃ w, vertices[0 + 1]? = some w := ⟨_, List.getElem?_eq_getElem h⟩
    exact ⟨0, v, w, ⟨hi, hw⟩, start_mem_piecePlaces v w⟩
  | succ i =>
    have hlength : i < List.length vertices := Nat.lt_of_succ_lt (List.getElem?_eq_some_iff.1 hi).1
    exact ⟨i, vertices[i], v, ⟨List.getElem?_eq_getElem hlength, hi⟩, stop_mem_piecePlaces _ v⟩

theorem le_or_eq_start {x c start : ℝ} (hc : start ≤ c) (h : |x - c| ≤ |x - start|) :
    start ≤ x ∨ c = start := by
  rcases le_total start x with hx | hx
  · exact Or.inl hx
  · rw [abs_of_nonpos (sub_nonpos.2 hx), abs_of_nonpos (sub_nonpos.2 (hx.trans hc))] at h
    exact Or.inr (le_antisymm (by linarith) hc)

theorem le_or_eq_stop {x c stop : ℝ} (hc : c ≤ stop) (h : |x - c| ≤ |x - stop|) :
    x ≤ stop ∨ c = stop := by
  rcases le_total x stop with hx | hx
  · exact Or.inl hx
  · rw [abs_of_nonneg (sub_nonneg.2 hx), abs_of_nonneg (sub_nonneg.2 (hc.trans hx))] at h
    exact Or.inr (le_antisymm hc (by linarith))

namespace StraightAlong

variable {a b p : Point ℝ} {vertices : Polyline ℝ} {k : Nat} {f : Foot ℝ}
  (h : StraightAlong a b vertices) (hline : NoRepeats vertices) (hf : IsNearest p vertices k f)

include h hline hf

/-- A point is ahead of the start of its nearest piece and behind the end, or the one or the other
is the nearest place of all. -/
theorem sides : (part a b f.start.flat ≤ part a b p ∨ f.distance = p.distance f.start.flat) ∧
    (part a b p ≤ part a b f.stop.flat ∨ f.distance = p.distance f.stop.flat) := by
  obtain ⟨hstart, hstop⟩ := hf.piece
  obtain ⟨h0, h1⟩ := hf.share
  have hforth := h.lt_of_lt hline (Nat.lt_succ_self k) hstart hstop
  have hmem : f.start ∈ vertices ∧ f.stop ∈ vertices :=
    ⟨List.mem_of_getElem? hstart, List.mem_of_getElem? hstop⟩
  set c := part a b f.start.flat + f.share * (part a b f.stop.flat - part a b f.start.flat) with hc
  have hplace : f.distance = p.distance (between a b c) := by
    rw [← hf.distance, hc, ← between_between, ← h.on _ hmem.1, ← h.on _ hmem.2]
  have hnear : ∀ w ∈ vertices, w.flat ∈ piecePlaces f.start f.stop →
      |part a b p - c| ≤ |part a b p - part a b w.flat| := by
    intro w hw hpiece
    have hle := hf.least _ ⟨k, f.start, f.stop, hf.piece, hpiece⟩
    rwa [hplace, h.on w hw, distance_between_le_iff h.apart] at hle
  constructor
  · refine (le_or_eq_start ?_ (hnear _ hmem.1 (start_mem_piecePlaces _ _))).imp_right fun he => ?_
    · rw [hc]
      nlinarith
    · rw [hplace, he, ← h.on _ hmem.1]
  · refine (le_or_eq_stop ?_ (hnear _ hmem.2 (stop_mem_piecePlaces _ _))).imp_right fun he => ?_
    · rw [hc]
      nlinarith
    · rw [hplace, he, ← h.on _ hmem.2]

theorem endsNearest : EndsNearest p vertices k f.start f.stop := by
  obtain ⟨hstart, hstop⟩ := hf.piece
  obtain ⟨hahead, hbehind⟩ := h.sides hline hf
  have hstart' := List.mem_of_getElem? hstart
  have hstop' := List.mem_of_getElem? hstop
  have hbefore : ∀ j w, j < k → vertices[j]? = some w →
      p.distance f.start.flat < p.distance w.flat := by
    intro j w hj hw
    rcases hahead with hx | hx
    · exact h.distance_lt_of_before hstart' (List.mem_of_getElem? hw)
        (h.lt_of_lt hline hj hw hstart) hx
    · have hnext : j + 1 < List.length vertices :=
        (Nat.succ_le_of_lt hj).trans_lt (List.getElem?_eq_some_iff.1 hstart).1
      exact hx ▸ hf.first j w _ hj ⟨hw, List.getElem?_eq_getElem hnext⟩ _
        (start_mem_piecePlaces w _)
  have hafter : ∀ j w, k + 1 < j → vertices[j]? = some w →
      p.distance f.stop.flat ≤ p.distance w.flat := by
    intro j w hj hw
    rcases hbehind with hx | hx
    · exact (h.distance_lt_of_after hstop' (List.mem_of_getElem? hw)
        (h.lt_of_lt hline hj hstop hw) hx).le
    · have htwo : 2 ≤ List.length vertices := by
        have hlast := (List.getElem?_eq_some_iff.1 hstop).1
        omega
      exact hx ▸ hf.least _ (mem_places htwo (List.mem_of_getElem? hw))
  refine ⟨fun w hw => ?_, fun j w hj hw => ?_⟩ <;> simp only [reach_eq_distance]
  · obtain ⟨j, hj⟩ := List.mem_iff_getElem?.1 hw
    obtain hlt | rfl | rfl | hlt : j < k ∨ j = k ∨ j = k + 1 ∨ k + 1 < j := by omega
    · exact Or.inl (hbefore j w hlt hj).le
    · exact Or.inl (Option.some.inj (hstart.symm.trans hj) ▸ le_refl _)
    · exact Or.inr (Option.some.inj (hstop.symm.trans hj) ▸ le_refl _)
    · exact Or.inr (hafter j w hlt hj)
  · exact Or.inl (hbefore j w hj hw)

end StraightAlong

theorem withoutRepeatsFrom_sublist (v : Vertex ℝ) (rest : List (Vertex ℝ)) :
    (withoutRepeatsFrom v rest).Sublist rest := by
  induction rest generalizing v with
  | nil => exact List.Sublist.refl _
  | cons w rest ih =>
    rw [withoutRepeatsFrom]
    split
    · exact (ih w).cons w
    · exact (ih w).cons_cons w

theorem Resampled.straight {vertices : Polyline ℝ} {resolution : ℝ} {v : Vertex ℝ}
    {rest fine : List (Vertex ℝ)} (h : Resampled vertices resolution v rest fine)
    (hline : Straight vertices) : Straight (v :: fine) := by
  obtain ⟨a, b, hline⟩ := hline
  have hkept : (withoutRepeats vertices).Sublist vertices := by
    cases vertices with
    | nil => exact List.Sublist.refl _
    | cons w tail => exact (withoutRepeatsFrom_sublist w tail).cons_cons w
  rw [h.kept] at hkept
  exact ⟨a, b, (hline.sublist hkept).refine h.refines⟩

end LaneRoute.Polyline
