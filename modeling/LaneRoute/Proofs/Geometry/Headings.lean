import LaneRoute.Proofs.Geometry.Repeats

/-!
# Headings beside polylines

The heading at a point is that of the first of the pieces that come nearest. A piece of no length
is never the first of these, because the piece before it comes as near, unless it is the first
piece of all. So repeated vertices change the heading only where a polyline starts with some and
nothing of it is nearer to the point than the start.
-/

set_option autoImplicit false

namespace LaneRoute.Polyline

open Scalar Point LaneRoute.Ring

/-! ## The nearest piece in the plane -/

noncomputable def bearing (e : Point ℝ × Point ℝ) : ℝ := atan2 (e.2.y - e.1.y) (e.2.x - e.1.x)

noncomputable def comesNearer (p : Point ℝ) (e f : Point ℝ × Point ℝ) : Bool :=
  decide (edgeDistance p e.1 e.2 < edgeDistance p f.1 f.2)

theorem weakOrder_comesNearer (p : Point ℝ) : WeakOrder (comesNearer p) fun _ => True :=
  OrderedNumbers.weakOrder_lt fun _ _ => ExactSums.isNumber _

theorem distance_pieceFoot_eq (p : Point ℝ) (a b : Vertex ℝ) :
    (pieceFoot p a b).distance = edgeDistance p a.flat b.flat := by
  obtain ⟨⟨t, h0, h1, hedge⟩, hleast⟩ := edgeDistance_least p a.flat b.flat
  apply le_antisymm
  · rw [hedge]
    exact distance_pieceFoot_le p a b h0 h1
  · obtain ⟨h0, h1⟩ := share_mem p a b
    rw [distance_pieceFoot]
    exact hleast _ h0 h1

theorem exists_bearing {line : Polyline ℝ} (h : 2 ≤ List.length line) (p : Point ℝ) :
    ∃ e, IsFirstLeast (comesNearer p) (flatPieces line) e ∧ headingAt line p = bearing e := by
  obtain ⟨f, hf, hfirst⟩ := exists_foot h p
  obtain ⟨⟨a, b⟩, rfl, hpieces⟩ := isFirstLeast_map.1 hfirst
  refine ⟨(a.flat, b.flat), isFirstLeast_map.2 ⟨(a, b), rfl, ?_⟩, ?_⟩
  · have hbefore : (fun e f : Vertex ℝ × Vertex ℝ => Foot.before (pieceFoot p e.1 e.2)
        (pieceFoot p f.1 f.2)) =
        fun e f => comesNearer p (e.1.flat, e.2.flat) (f.1.flat, f.2.flat) := by
      funext e f
      rw [Foot.before, distance_pieceFoot_eq, distance_pieceFoot_eq, comesNearer]
    exact hbefore ▸ hpieces
  · rw [headingAt, hf]
    rfl

theorem two_le_length_of_mem_flatPieces {line : Polyline ℝ} {e : Point ℝ × Point ℝ}
    (h : e ∈ flatPieces line) : 2 ≤ List.length line := by
  match line with
  | [] => cases h
  | [_] => cases h
  | _ :: _ :: _ => simp

theorem headingAt_eq {line : Polyline ℝ} {p : Point ℝ} {e : Point ℝ × Point ℝ}
    (h : IsFirstLeast (comesNearer p) (flatPieces line) e) : headingAt line p = bearing e := by
  obtain ⟨f, hf, hheading⟩ := exists_bearing (two_le_length_of_mem_flatPieces h.mem) p
  rw [hheading, (weakOrder_comesNearer p).isFirstLeast_unique (fun _ _ => trivial) hf h]

def IsNearestPiece (p : Point ℝ) (line : Polyline ℝ) (e : Point ℝ × Point ℝ) : Prop :=
  e ∈ flatPieces line ∧ ∀ q ∈ places line, edgeDistance p e.1 e.2 ≤ p.distance q

theorem isNearestPiece_of_isFirstLeast {line : Polyline ℝ} {p : Point ℝ} {e : Point ℝ × Point ℝ}
    (h : IsFirstLeast (comesNearer p) (flatPieces line) e) : IsNearestPiece p line e := by
  refine ⟨h.mem, ?_⟩
  rintro _ ⟨i, a, b, hpiece, t, h0, h1, rfl⟩
  have hmem : (a.flat, b.flat) ∈ flatPieces line := mem_flatPieces.2 ⟨i, a, b, hpiece, rfl⟩
  have hle := (weakOrder_comesNearer p).least_of_isFirstLeast (fun _ _ => trivial) h _ hmem
  exact (not_lt.1 (of_decide_eq_false hle)).trans ((edgeDistance_least p _ _).2 t h0 h1)

/-! ## Pieces of no length -/

theorem edgeDistance_le_distance_start (p a b : Point ℝ) : edgeDistance p a b ≤ p.distance a := by
  have hstart : between a b 0 = a := by simp [between]
  simpa [hstart] using (edgeDistance_least p a b).2 0 le_rfl zero_le_one

theorem edgeDistance_le_distance_stop (p a b : Point ℝ) : edgeDistance p a b ≤ p.distance b := by
  have hstop : between a b 1 = b := by simp [between]
  simpa [hstop] using (edgeDistance_least p a b).2 1 zero_le_one le_rfl

theorem edgeDistance_self (p a : Point ℝ) : edgeDistance p a a = p.distance a :=
  if_pos (point_agrees_iff.2 rfl)

/-- Of the nearest pieces the first one has some length, or it is the first piece of all. -/
theorem head?_of_still {line : Polyline ℝ} {p : Point ℝ} {e : Point ℝ × Point ℝ}
    (h : IsFirstLeast (comesNearer p) (flatPieces line) e) (he : e.1 = e.2) :
    (flatPieces line).head? = some e := by
  obtain ⟨earlier, later, hpieces, hearlier, -⟩ := h
  have hchain := isChain_flatPieces line
  rw [hpieces] at hchain ⊢
  cases earlier using List.reverseRecOn with
  | nil => rfl
  | append_singleton earlier f =>
    -- the piece before ends at the place of this one, so it is no farther
    have hlt : edgeDistance p e.1 e.2 < edgeDistance p f.1 f.2 :=
      of_decide_eq_true (hearlier f (by simp))
    have hjoin : f.2 = e.1 := (List.isChain_append.1 hchain).2.2 f (by simp) e (by simp)
    rw [← he, edgeDistance_self, ← hjoin] at hlt
    exact absurd (edgeDistance_le_distance_stop p f.1 f.2) (not_le.2 hlt)

/-- A polyline starts with a piece of no length, and no place of it is nearer to a point. -/
def Stalls (line : Polyline ℝ) (p : Point ℝ) : Prop :=
  ∃ a b rest, line = a :: b :: rest ∧ a.flat = b.flat ∧
    ∀ q ∈ places line, p.distance a.flat ≤ p.distance q

theorem stalls_of_still {line : Polyline ℝ} {p : Point ℝ} {e : Point ℝ × Point ℝ}
    (h : IsFirstLeast (comesNearer p) (flatPieces line) e) (he : e.1 = e.2) : Stalls line p := by
  have hhead := head?_of_still h he
  have hnearest := (isNearestPiece_of_isFirstLeast h).2
  match line with
  | [] => cases hhead
  | [_] => cases hhead
  | a :: b :: rest =>
    obtain rfl : (a.flat, b.flat) = e := Option.some.inj hhead
    have hstart : a.flat = b.flat := he
    refine ⟨a, b, rest, rfl, hstart, fun q hq => ?_⟩
    have hle := hnearest q hq
    rwa [← hstart, edgeDistance_self] at hle

theorem headingAt_of_stalls {line : Polyline ℝ} {p : Point ℝ} (h : Stalls line p) :
    headingAt line p = 0 ∧ ∀ a b rest, withoutRepeats line = a :: b :: rest →
      IsNearestPiece p line (a.flat, b.flat) ∧
        headingAt (withoutRepeats line) p = bearing (a.flat, b.flat) := by
  obtain ⟨a, c, tail, rfl, hstart, hleast⟩ := h
  have hfar : ∀ e ∈ flatPieces (a :: c :: tail), ¬ edgeDistance p e.1 e.2 < p.distance a.flat := by
    intro e he
    obtain ⟨i, b, d, hpiece, rfl⟩ := mem_flatPieces.1 he
    obtain ⟨⟨t, h0, h1, hedge⟩, -⟩ := edgeDistance_least p b.flat d.flat
    exact not_lt.2 (hedge ▸ hleast _ ⟨i, b, d, hpiece, t, h0, h1, rfl⟩)
  constructor
  · have hfirst : IsFirstLeast (comesNearer p) (flatPieces (a :: c :: tail)) (a.flat, c.flat) := by
      refine ⟨[], flatPieces (c :: tail), rfl, by simp, fun e he => decide_eq_false ?_⟩
      rw [← hstart, edgeDistance_self]
      exact hfar e (List.mem_cons_of_mem _ he)
    have hstill : (⟨c.flat.x - a.flat.x, c.flat.y - a.flat.y⟩ : ℂ) = 0 := by
      rw [hstart, sub_self, sub_self]
      rfl
    rw [headingAt_eq hfirst]
    exact (congrArg Complex.arg hstill).trans Complex.arg_zero
  · intro a' b rest hline
    obtain rfl : a = a' := (List.cons.inj hline).1
    have hpieces := flatPieces_withoutRepeats (a :: c :: tail)
    rw [hline, flatPieces_cons] at hpieces
    have hmem : ∀ e ∈ (a.flat, b.flat) :: flatPieces (b :: rest),
        e ∈ flatPieces (a :: c :: tail) := by
      intro e he
      rw [hpieces] at he
      exact (List.mem_filter.1 he).1
    have hnear : edgeDistance p a.flat b.flat ≤ p.distance a.flat :=
      edgeDistance_le_distance_start p a.flat b.flat
    refine ⟨⟨hmem _ (by simp), fun q hq => hnear.trans (hleast q hq)⟩, ?_⟩
    rw [hline]
    refine headingAt_eq ⟨[], flatPieces (b :: rest), rfl, by simp, fun e he => decide_eq_false ?_⟩
    exact fun hlt => hfar e (hmem e (by simp [he])) (hlt.trans_le hnear)

theorem headingAt_of_not_stalls {line : Polyline ℝ} (hlength : 2 ≤ List.length line) {p : Point ℝ}
    (h : ¬ Stalls line p) : ∃ e, IsNearestPiece p line e ∧ e.1 ≠ e.2 ∧
      headingAt line p = bearing e ∧ headingAt (withoutRepeats line) p = bearing e := by
  obtain ⟨e, hfirst, hheading⟩ := exists_bearing hlength p
  have hmoves : e.1 ≠ e.2 := fun he => h (stalls_of_still hfirst he)
  have hkept : (!e.1.agrees e.2) = true := by simpa using mt point_agrees_iff.1 hmoves
  refine ⟨e, isNearestPiece_of_isFirstLeast hfirst, hmoves, hheading, headingAt_eq ?_⟩
  rw [flatPieces_withoutRepeats]
  exact hfirst.filter hkept

/-- On a polyline of some length the heading without repeats is that of a nearest piece, which has
some length. With the repeats it is the same, unless the polyline stalls at the point: then it is
zero, wherever the polyline sets off to. -/
theorem headingAt_eq_withoutRepeats_iff {line : Polyline ℝ} (h : 0 < planarLength line)
    (p : Point ℝ) :
    (∃ e, IsNearestPiece p line e ∧ e.1 ≠ e.2 ∧
      headingAt (withoutRepeats line) p = bearing e) ∧
    (Stalls line p → headingAt line p = 0) ∧
    (headingAt line p = headingAt (withoutRepeats line) p ↔ ¬ Stalls line p ∨
      ∃ a b rest, withoutRepeats line = a :: b :: rest ∧ bearing (a.flat, b.flat) = 0) := by
  by_cases hstalls : Stalls line p
  · obtain ⟨hzero, hstart⟩ := headingAt_of_stalls hstalls
    obtain ⟨a, b, rest, hline⟩ : ∃ a b rest, withoutRepeats line = a :: b :: rest := by
      match hline : withoutRepeats line, two_le_length_withoutRepeats h with
      | a :: b :: rest, _ => exact ⟨a, b, rest, rfl⟩
    obtain ⟨hnearest, hheading⟩ := hstart a b rest hline
    have hmem : (a.flat, b.flat) ∈ flatPieces (withoutRepeats line) := by
      rw [hline]
      simp [flatPieces_cons]
    rw [flatPieces_withoutRepeats, List.mem_filter] at hmem
    have hmoves : a.flat ≠ b.flat := fun he => by simpa [point_agrees_iff.2 he] using hmem.2
    refine ⟨⟨_, hnearest, hmoves, hheading⟩, fun _ => hzero, ?_⟩
    rw [hzero, hheading]
    constructor
    · exact fun he => Or.inr ⟨a, b, rest, hline, he.symm⟩
    · rintro (hnot | ⟨a', b', rest', hline', he⟩)
      · exact absurd hstalls hnot
      · obtain ⟨rfl, htail⟩ := List.cons.inj (hline.symm.trans hline')
        obtain ⟨rfl, -⟩ := List.cons.inj htail
        exact he.symm
  · obtain ⟨e, hnearest, hmoves, hwith, hwithout⟩ :=
      headingAt_of_not_stalls (two_le_length h) hstalls
    exact ⟨⟨e, hnearest, hmoves, hwithout⟩, fun hs => absurd hs hstalls,
      ⟨fun _ => Or.inl hstalls, fun _ => hwith.trans hwithout.symm⟩⟩

/-! ## Both ends twice -/

def northward : Polyline ℝ := [⟨0, 0, 0⟩, ⟨0, 0, 0⟩, ⟨0, 10, 0⟩, ⟨0, 10, 0⟩]

theorem withoutRepeats_northward : withoutRepeats northward = [⟨0, 0, 0⟩, ⟨0, 10, 0⟩] := by
  have hne : Vertex.flat (⟨0, 0, 0⟩ : Vertex ℝ) ≠ Vertex.flat ⟨0, 10, 0⟩ := by simp [Vertex.flat]
  rw [northward, withoutRepeats, withoutRepeatsFrom_of_eq rfl, withoutRepeatsFrom_of_ne hne,
    withoutRepeatsFrom_of_eq rfl, withoutRepeatsFrom]

theorem planarLength_northward : 0 < planarLength northward := by
  rw [← planarLength_withoutRepeats, withoutRepeats_northward]
  simp [planarLength, planarLengthFrom, step_eq]

/-- Beside the middle the repeated vertices make no difference. -/
theorem northward_beside : 0 < planarLength northward ∧ ¬ Stalls northward ⟨1, 5⟩ ∧
    headingAt northward ⟨1, 5⟩ = headingAt (withoutRepeats northward) ⟨1, 5⟩ := by
  have hmoves : ¬ Stalls northward ⟨1, 5⟩ := by
    rintro ⟨a, b, rest, hline, -, hleast⟩
    obtain rfl : (⟨0, 0, 0⟩ : Vertex ℝ) = a := (List.cons.inj hline).1
    have hplace : (⟨0, 5⟩ : Point ℝ) ∈ places northward := by
      refine ⟨1, ⟨0, 0, 0⟩, ⟨0, 10, 0⟩, ⟨rfl, rfl⟩, 1 / 2, by norm_num, by norm_num, ?_⟩
      norm_num [between, Vertex.flat]
    have hle := hleast _ hplace
    rw [distance_eq, distance_eq, Real.sqrt_le_sqrt_iff (by norm_num)] at hle
    norm_num [Vertex.flat] at hle
  obtain ⟨-, -, hiff⟩ := headingAt_eq_withoutRepeats_iff planarLength_northward ⟨1, 5⟩
  exact ⟨planarLength_northward, hmoves, hiff.2 (Or.inl hmoves)⟩

/-- At the start the heading is zero, although the polyline goes along the other axis. -/
theorem northward_stalls : 0 < planarLength northward ∧ headingAt northward ⟨0, 0⟩ = 0 ∧
    headingAt (withoutRepeats northward) ⟨0, 0⟩ = Real.pi / 2 := by
  have hstalls : Stalls northward ⟨0, 0⟩ := by
    refine ⟨⟨0, 0, 0⟩, ⟨0, 0, 0⟩, _, rfl, rfl, fun q _ => ?_⟩
    have hzero : Point.distance (⟨0, 0⟩ : Point ℝ) (Vertex.flat ⟨0, 0, 0⟩) = 0 := by
      simp [distance_eq, Vertex.flat]
    exact hzero.trans_le (Real.sqrt_nonneg _)
  obtain ⟨hzero, hstart⟩ := headingAt_of_stalls hstalls
  refine ⟨planarLength_northward, hzero, ?_⟩
  rw [(hstart _ _ _ withoutRepeats_northward).2]
  have hup : (⟨0 - 0, 10 - 0⟩ : ℂ) = (10 : ℝ) * Complex.I := by
    apply Complex.ext <;> simp
  exact (congrArg Complex.arg hup).trans
    ((Complex.arg_real_mul _ (by norm_num)).trans Complex.arg_I)

end LaneRoute.Polyline
