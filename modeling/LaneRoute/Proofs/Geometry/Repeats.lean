import LaneRoute.Proofs.Geometry.Feet

/-!
# Repeated vertices

A vertex that lies in the plane where its predecessor lies ends a piece of no length. A polyline
without such vertices has the other pieces, in their order, and is as long.
-/

set_option autoImplicit false

namespace LaneRoute.Polyline

open Point LaneRoute.Ring

theorem isRepeat_iff {v w : Vertex ℝ} : isRepeat v w = true ↔ v.flat = w.flat := by
  rw [isRepeat, Bool.and_eq_true, agrees_iff, agrees_iff, Vertex.flat, Vertex.flat, Point.mk.injEq]
  exact and_congr (sub_eq_zero.trans eq_comm) (sub_eq_zero.trans eq_comm)

theorem withoutRepeatsFrom_of_eq {v w : Vertex ℝ} (h : v.flat = w.flat) (rest : List (Vertex ℝ)) :
    withoutRepeatsFrom v (w :: rest) = withoutRepeatsFrom w rest := if_pos (isRepeat_iff.2 h)

theorem withoutRepeatsFrom_of_ne {v w : Vertex ℝ} (h : v.flat ≠ w.flat) (rest : List (Vertex ℝ)) :
    withoutRepeatsFrom v (w :: rest) = w :: withoutRepeatsFrom w rest := if_neg (mt isRepeat_iff.1 h)

def NoRepeats (line : Polyline ℝ) : Prop := line.IsChain fun v w => v.flat ≠ w.flat

theorem noRepeats_withoutRepeatsFrom {v w : Vertex ℝ} (h : v.flat = w.flat)
    (rest : List (Vertex ℝ)) : NoRepeats (v :: withoutRepeatsFrom w rest) := by
  induction rest generalizing v w with
  | nil => exact List.isChain_singleton v
  | cons u rest ih =>
    by_cases hu : w.flat = u.flat
    · rw [withoutRepeatsFrom_of_eq hu]
      exact ih (h.trans hu)
    · rw [withoutRepeatsFrom_of_ne hu]
      exact List.isChain_cons_cons.2 ⟨h ▸ hu, ih rfl⟩

theorem withoutRepeatsFrom_of_noRepeats {v : Vertex ℝ} {rest : List (Vertex ℝ)}
    (h : NoRepeats (v :: rest)) : withoutRepeatsFrom v rest = rest := by
  induction rest generalizing v with
  | nil => rfl
  | cons w rest ih =>
    obtain ⟨hflat, hrest⟩ := List.isChain_cons_cons.1 h
    rw [withoutRepeatsFrom_of_ne hflat, ih hrest]

/-! ## Pieces in the plane -/

def flatPieces (line : Polyline ℝ) : List (Point ℝ × Point ℝ) :=
  (pieces line).map fun e => (e.1.flat, e.2.flat)

theorem flatPieces_cons (a b : Vertex ℝ) (rest : List (Vertex ℝ)) :
    flatPieces (a :: b :: rest) = (a.flat, b.flat) :: flatPieces (b :: rest) := rfl

theorem mem_flatPieces {line : Polyline ℝ} {e : Point ℝ × Point ℝ} :
    e ∈ flatPieces line ↔ ∃ i a b, IsPiece line i a b ∧ (a.flat, b.flat) = e := by
  rw [flatPieces, List.mem_map]
  constructor
  · rintro ⟨⟨a, b⟩, hmem, he⟩
    obtain ⟨i, hi⟩ := List.getElem?_of_mem hmem
    exact ⟨i, a, b, pieces_getElem?_eq_some.1 hi, he⟩
  · rintro ⟨i, a, b, hpiece, he⟩
    exact ⟨(a, b), List.mem_of_getElem? (pieces_getElem?_eq_some.2 hpiece), he⟩

theorem isChain_flatPieces (line : Polyline ℝ) :
    (flatPieces line).IsChain fun e f => e.2 = f.1 := by
  match line with
  | [] => exact List.isChain_nil
  | [_] => exact List.isChain_nil
  | [_, _] => exact List.isChain_singleton _
  | a :: b :: c :: rest =>
    exact List.isChain_cons_cons.2 ⟨rfl, isChain_flatPieces (b :: c :: rest)⟩

theorem flatPieces_withoutRepeatsFrom {v w : Vertex ℝ} (h : v.flat = w.flat)
    (rest : List (Vertex ℝ)) : flatPieces (v :: withoutRepeatsFrom w rest) =
      (flatPieces (w :: rest)).filter fun e => !e.1.agrees e.2 := by
  induction rest generalizing v w with
  | nil => rfl
  | cons u rest ih =>
    rw [flatPieces_cons]
    by_cases hu : w.flat = u.flat
    · rw [withoutRepeatsFrom_of_eq hu, ih (h.trans hu), List.filter_cons_of_neg]
      simpa using point_agrees_iff.2 hu
    · rw [withoutRepeatsFrom_of_ne hu, flatPieces_cons, ih rfl, List.filter_cons_of_pos, h]
      simpa using mt point_agrees_iff.1 hu

theorem flatPieces_withoutRepeats (line : Polyline ℝ) : flatPieces (withoutRepeats line) =
    (flatPieces line).filter fun e => !e.1.agrees e.2 := by
  cases line with
  | nil => rfl
  | cons v rest => exact flatPieces_withoutRepeatsFrom rfl rest

/-! ## Lengths -/

theorem step_eq (v w : Vertex ℝ) :
    step v w = √((w.x - v.x) * (w.x - v.x) + (w.y - v.y) * (w.y - v.y)) := rfl

theorem step_nonneg (v w : Vertex ℝ) : 0 ≤ step v w := Real.sqrt_nonneg _

theorem step_of_eq {v w : Vertex ℝ} (h : v.flat = w.flat) : step v w = 0 := by
  rw [Vertex.flat, Vertex.flat, Point.mk.injEq] at h
  simp [step_eq, h.1, h.2]

theorem step_pos {v w : Vertex ℝ} (h : v.flat ≠ w.flat) : 0 < step v w :=
  Real.sqrt_pos.2 (ahead_self_pos h)

theorem planarLengthFrom_withoutRepeatsFrom (s : ℝ) {v w : Vertex ℝ} (h : v.flat = w.flat)
    (rest : List (Vertex ℝ)) :
    planarLengthFrom s v (withoutRepeatsFrom w rest) = planarLengthFrom s w rest := by
  induction rest generalizing s v w with
  | nil => rfl
  | cons u rest ih =>
    by_cases hu : w.flat = u.flat
    · rw [withoutRepeatsFrom_of_eq hu, ih s (h.trans hu), planarLengthFrom, step_of_eq hu, add_zero]
    · have hstep : step v u = step w u := by
        rw [Vertex.flat, Vertex.flat, Point.mk.injEq] at h
        rw [step_eq, step_eq, h.1, h.2]
      rw [withoutRepeatsFrom_of_ne hu, planarLengthFrom, planarLengthFrom, ih _ rfl, hstep]

theorem planarLength_withoutRepeats (line : Polyline ℝ) :
    planarLength (withoutRepeats line) = planarLength line := by
  cases line with
  | nil => rfl
  | cons v rest => exact planarLengthFrom_withoutRepeatsFrom 0 rfl rest

theorem le_planarLengthFrom (s : ℝ) (v : Vertex ℝ) (rest : List (Vertex ℝ)) :
    s ≤ planarLengthFrom s v rest := by
  induction rest generalizing s v with
  | nil => exact le_rfl
  | cons w rest ih => exact (le_add_of_nonneg_right (step_nonneg v w)).trans (ih _ w)

theorem flat_eq_of_planarLengthFrom_le {s : ℝ} {v : Vertex ℝ} {rest : List (Vertex ℝ)}
    (h : planarLengthFrom s v rest ≤ s) : ∀ w ∈ rest, v.flat = w.flat := by
  induction rest generalizing v with
  | nil => simp
  | cons u rest ih =>
    have hstill : v.flat = u.flat := by
      by_contra hflat
      have hlonger := le_planarLengthFrom (s + step v u) u rest
      exact absurd (hlonger.trans h) (by linarith [step_pos hflat])
    rw [planarLengthFrom, step_of_eq hstill, add_zero] at h
    intro w hw
    rcases List.mem_cons.1 hw with rfl | hw
    · exact hstill
    · exact hstill.trans (ih h w hw)

theorem planarLength_pos {line : Polyline ℝ} {v w : Vertex ℝ} (hv : v ∈ line) (hw : w ∈ line)
    (h : v.flat ≠ w.flat) : 0 < planarLength line := by
  cases line with
  | nil => cases hv
  | cons a rest =>
    by_contra hlength
    have hstill : ∀ u ∈ a :: rest, a.flat = u.flat :=
      List.forall_mem_cons.2 ⟨rfl, flat_eq_of_planarLengthFrom_le (not_lt.1 hlength)⟩
    exact h ((hstill v hv).symm.trans (hstill w hw))

theorem two_le_length {line : Polyline ℝ} (h : 0 < planarLength line) : 2 ≤ List.length line := by
  match line with
  | [] => exact absurd h (lt_irrefl _)
  | [_] => exact absurd h (lt_irrefl _)
  | _ :: _ :: _ => simp

theorem two_le_length_withoutRepeats {line : Polyline ℝ} (h : 0 < planarLength line) :
    2 ≤ List.length (withoutRepeats line) := by
  apply two_le_length
  rwa [planarLength_withoutRepeats]

end LaneRoute.Polyline
