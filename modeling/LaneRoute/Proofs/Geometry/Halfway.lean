import LaneRoute.Proofs.Geometry.Refinements
import LaneRoute.Network.Segment

/-!
# Lines halfway between bounds

The line between two bounds has its vertices halfway between places of them, which are passed after
even shares of their lengths. Backward a bound passes the same vertices, each after what was left of
the way. So the line between two bounds that are reversed is the line between them reversed.
-/

set_option autoImplicit false

namespace LaneRoute

namespace Polyline

open LaneRoute.Ring

/-! ## Polylines backward -/

theorem step_comm (a b : Vertex ℝ) : step a b = step b a := by
  rw [step_eq, step_eq]
  congr 1
  ring

theorem vertexBetween_comm (a b : Vertex ℝ) (t : ℝ) :
    vertexBetween b a (1 - t) = vertexBetween a b t := by
  simp only [vertexBetween, Vertex.mk.injEq]
  refine ⟨?_, ?_, ?_⟩ <;> ring

theorem planarLengthFrom_eq_add (r : ℝ) (a : Vertex ℝ) (rest : List (Vertex ℝ)) :
    planarLengthFrom r a rest = r + planarLength (a :: rest) := by
  rw [planarLength]
  induction rest generalizing r a with
  | nil => simp [planarLengthFrom]
  | cons b rest ih =>
    rw [planarLengthFrom, planarLengthFrom, ih, ih (0 + step a b), zero_add, add_assoc]

theorem planarLength_cons_cons (a b : Vertex ℝ) (rest : List (Vertex ℝ)) :
    planarLength (a :: b :: rest) = step a b + planarLength (b :: rest) := by
  rw [planarLength, planarLengthFrom, planarLengthFrom_eq_add, zero_add]

theorem planarLength_singleton (a : Vertex ℝ) : planarLength [a] = 0 := rfl

theorem planarLength_append (front back : List (Vertex ℝ)) (c : Vertex ℝ) :
    planarLength (front ++ c :: back) = planarLength (front ++ [c]) + planarLength (c :: back) := by
  induction front with
  | nil => rw [List.nil_append, List.nil_append, planarLength_singleton, zero_add]
  | cons a front ih =>
    cases front with
    | nil =>
      simp only [List.cons_append, List.nil_append, planarLength_cons_cons, planarLength_singleton,
        add_zero]
    | cons b front =>
      simp only [List.cons_append, planarLength_cons_cons] at ih ⊢
      rw [ih, add_assoc]

theorem planarLength_reverse (line : Polyline ℝ) :
    planarLength line.reverse = planarLength line := by
  induction line with
  | nil => rfl
  | cons a rest ih =>
    cases rest with
    | nil => rfl
    | cons b rest =>
      have hback : (a :: b :: rest).reverse = rest.reverse ++ b :: [a] := by simp
      rw [hback, planarLength_append, ← List.reverse_cons, ih, planarLength_cons_cons b,
        planarLength_singleton, planarLength_cons_cons a, step_comm b a, add_zero, add_comm]

theorem passesFrom_append {r s : ℝ} {a c v : Vertex ℝ} (front back : List (Vertex ℝ)) :
    PassesFrom r a (front ++ c :: back) s v ↔ PassesFrom r a (front ++ [c]) s v ∨
      PassesFrom (planarLengthFrom r a (front ++ [c])) c back s v := by
  induction front generalizing r a with
  | nil =>
    have hseam : s = r + step a c ∧ v = c → PassesFrom (r + step a c) c back s v := by
      rintro ⟨rfl, rfl⟩
      exact passesFrom_start _ _ _
    simp only [List.nil_append, PassesFrom, planarLengthFrom]
    rw [or_assoc, or_iff_right_of_imp hseam]
  | cons b front ih =>
    simp only [List.cons_append, PassesFrom, planarLengthFrom, ih, or_assoc]

theorem passes_append {s : ℝ} {c v : Vertex ℝ} (front back : List (Vertex ℝ)) :
    Passes (front ++ c :: back) s v ↔ Passes (front ++ [c]) s v ∨
      PassesFrom (planarLength (front ++ [c])) c back s v := by
  cases front with
  | nil =>
    have hseam : s = 0 ∧ v = c → PassesFrom 0 c back s v := by
      rintro ⟨rfl, rfl⟩
      exact passesFrom_start _ _ _
    exact (or_iff_right_of_imp hseam).symm
  | cons a front => exact passesFrom_append front back

theorem passes_reverse_of_passesFrom {r s : ℝ} {a v : Vertex ℝ} {rest : List (Vertex ℝ)}
    (h : PassesFrom r a rest s v) :
    Passes (a :: rest).reverse (planarLengthFrom r a rest - s) v := by
  induction rest generalizing r a with
  | nil =>
    obtain ⟨rfl, rfl⟩ := h
    exact ⟨sub_self _, rfl⟩
  | cons b rest ih =>
    have hback : (a :: b :: rest).reverse = rest.reverse ++ b :: [a] := by simp
    rw [hback, passes_append, ← List.reverse_cons]
    rcases h with ⟨t, h0, h1, rfl, rfl⟩ | h
    · -- on the first piece, which comes last
      right
      left
      refine ⟨1 - t, by linarith, by linarith, ?_, (vertexBetween_comm a b t).symm⟩
      rw [planarLengthFrom, planarLengthFrom_eq_add, planarLength_reverse, step_comm b a]
      ring
    · exact Or.inl (ih h)

theorem passes_reverse {line : Polyline ℝ} {s : ℝ} {v : Vertex ℝ} :
    Passes line.reverse s v ↔ Passes line (planarLength line - s) v := by
  have hforth : ∀ (line : Polyline ℝ) s, Passes line s v →
      Passes line.reverse (planarLength line - s) v := by
    intro line s h
    cases line with
    | nil => exact h.elim
    | cons a rest => exact passes_reverse_of_passesFrom h
  constructor
  · intro h
    have hline := hforth _ _ h
    rwa [List.reverse_reverse, planarLength_reverse] at hline
  · intro h
    have hline := hforth _ _ h
    rwa [sub_sub_cancel] at hline

theorem passes_reverse_share {line : Polyline ℝ} {v : Vertex ℝ} {n k : Nat} (hn : 0 < n)
    (hk : k ≤ n) : Passes line.reverse (k / n * planarLength line.reverse) v ↔
      Passes line ((n - k : Nat) / n * planarLength line) v := by
  have hcast : (n : ℝ) ≠ 0 := Nat.cast_ne_zero.2 hn.ne'
  have hrest : planarLength line - k / n * planarLength line =
      (n - k : Nat) / n * planarLength line := by
    rw [Nat.cast_sub hk, sub_div, div_self hcast, sub_mul, one_mul]
  rw [passes_reverse, planarLength_reverse, hrest]

/-! ## Places at shares of the length -/

theorem passesFrom_placeAt {r x : ℝ} {a : Vertex ℝ} {rest : List (Vertex ℝ)} (h0 : r ≤ x)
    (h1 : x ≤ planarLengthFrom r a rest) : PassesFrom r a rest x (placeAt x (knotsFrom r a rest)) := by
  induction rest generalizing r a with
  | nil => exact ⟨le_antisymm h1 h0, placeAt_cons x r a []⟩
  | cons b rest ih =>
    rcases le_or_gt (r + step a b) x with hbeyond | hwithin
    · rw [placeAt_beyond hbeyond]
      exact Or.inr (ih hbeyond h1)
    · have hstep : 0 < step a b := by linarith
      rw [placeAt_within h0 hwithin]
      refine Or.inl ⟨(x - r) / step a b, div_nonneg (by linarith) hstep.le,
        (div_le_one hstep).2 (by linarith), ?_, rfl⟩
      rw [div_mul_cancel₀ _ hstep.ne', add_sub_cancel]

theorem passes_placeAt {line : Polyline ℝ} (hline : line ≠ []) {x : ℝ} (h0 : 0 ≤ x)
    (h1 : x ≤ planarLength line) : Passes line x (placeAt x (knots line)) := by
  cases line with
  | nil => exact absurd rfl hline
  | cons a rest => exact passesFrom_placeAt h0 h1

theorem length_evenly (stop : ℝ) (n : Nat) : (evenly stop n).length = n + 1 := by simp [evenly]

theorem getElem?_evenly (stop : ℝ) {n k : Nat} (hn : 0 < n) (hk : k ≤ n) :
    (evenly stop n)[k]? = some (k / n * stop) := by
  have hcast : (n : ℝ) ≠ 0 := Nat.cast_ne_zero.2 hn.ne'
  rcases hk.lt_or_eq with hlt | rfl
  · rw [evenly, List.getElem?_append_left (by simpa), List.getElem?_map,
      List.getElem?_range hlt, Option.map_some, div_mul_eq_mul_div, mul_div_assoc]
    rfl
  · rw [evenly, List.getElem?_append_right (by simp), div_self hcast, one_mul]
    simp

/-- What a bound of a segment is: two vertices or more, of which none lies in the plane where its
predecessor lies. -/
structure IsBound (line : Polyline ℝ) : Prop where
  several : 2 ≤ List.length line
  noRepeats : NoRepeats line

namespace IsBound

variable {line : Polyline ℝ}

theorem reverse (h : IsBound line) : IsBound line.reverse :=
  ⟨by simpa using h.several, List.isChain_reverse.2 (h.noRepeats.imp fun _ _ => Ne.symm)⟩

theorem stepless (h : IsBound line) : Stepless line :=
  h.noRepeats.imp fun _ _ hne he => absurd he hne

theorem length_pos (h : IsBound line) : 0 < planarLength line := by
  match line, h.several with
  | a :: b :: rest, _ =>
    exact planarLength_pos (v := a) (w := b) (by simp) (by simp)
      (List.isChain_cons_cons.1 h.noRepeats).1

theorem ne_nil (h : IsBound line) : line ≠ [] := by
  rintro rfl
  exact absurd h.several (by simp)

theorem atEvenShares_eq (h : IsBound line) (n : Nat) : atEvenShares line n =
    (evenly (1 : ℝ) n).map fun r => placeAt (r * planarLength line) (knots line) :=
  if_neg (mt agrees_iff.1 h.length_pos.ne')

theorem length_atEvenShares (h : IsBound line) (n : Nat) :
    List.length (atEvenShares line n) = n + 1 := by
  rw [h.atEvenShares_eq, List.length_map, length_evenly]

theorem exists_share (h : IsBound line) {n k : Nat} (hn : 0 < n) (hk : k ≤ n) :
    ∃ v, (atEvenShares line n)[k]? = some v ∧
      ∀ u, Passes line (k / n * planarLength line) u ↔ u = v := by
  have hshare : (k : ℝ) / n ≤ 1 :=
    (div_le_one (Nat.cast_pos.2 hn)).2 (Nat.cast_le.2 hk)
  have hpassed : Passes line (k / n * planarLength line)
      (placeAt (k / n * planarLength line) (knots line)) :=
    passes_placeAt h.ne_nil (mul_nonneg (by positivity) h.length_pos.le)
      (mul_le_of_le_one_left h.length_pos.le hshare)
  refine ⟨_, ?_, fun u => ⟨fun hu => passes_unique h.stepless hu hpassed, fun hu => hu ▸ hpassed⟩⟩
  rw [h.atEvenShares_eq, List.getElem?_map, getElem?_evenly 1 hn hk, mul_one]
  rfl

end IsBound

end Polyline

namespace Segment

open Polyline

variable {left right : Polyline ℝ}

def steps (left right : Polyline ℝ) : Nat := max (List.length left) (List.length right) - 1

theorem midpoint_eq (v w : Vertex ℝ) : Vertex.midpoint v w = vertexBetween v w (1 / 2) := by
  have htwo : (Scalar.two : ℝ) = 2 := one_add_one_eq_two
  simp only [Vertex.midpoint, vertexBetween, htwo, Vertex.mk.injEq]
  refine ⟨?_, ?_, ?_⟩ <;> ring

theorem middle_comm (left right : Polyline ℝ) : middle right left = middle left right := by
  have hmidpoint : ∀ v w : Vertex ℝ, Vertex.midpoint v w = Vertex.midpoint w v := by
    intro v w
    simp only [Vertex.midpoint, add_comm]
  rw [middle, middle, max_comm, List.zipWith_comm_of_comm hmidpoint]

theorem steps_pos (hleft : IsBound left) (right : Polyline ℝ) : 0 < steps left right := by
  have := hleft.several
  have := le_max_left (List.length left) (List.length right)
  rw [steps]
  omega

theorem steps_reverse (left right : Polyline ℝ) :
    steps left.reverse right.reverse = steps left right := by
  rw [steps, steps, List.length_reverse, List.length_reverse]

section Bounds

variable (hleft : IsBound left) (hright : IsBound right)

include hleft hright

theorem exists_middle {k : Nat} (hk : k ≤ steps left right) :
    ∃ v w, (middle left right)[k]? = some (vertexBetween v w (1 / 2)) ∧
      (∀ u, Passes left (k / steps left right * planarLength left) u ↔ u = v) ∧
      ∀ u, Passes right (k / steps left right * planarLength right) u ↔ u = w := by
  obtain ⟨v, hv, hpassesleft⟩ := hleft.exists_share (steps_pos hleft right) hk
  obtain ⟨w, hw, hpassesright⟩ := hright.exists_share (steps_pos hleft right) hk
  refine ⟨v, w, ?_, hpassesleft, hpassesright⟩
  rw [middle, List.getElem?_zipWith, ← steps, hv, hw, ← midpoint_eq]

theorem length_middle :
    List.length (middle left right) = max (List.length left) (List.length right) := by
  have hsteps := steps_pos hleft right
  rw [steps] at hsteps
  rw [middle, List.length_zipWith, hleft.length_atEvenShares, hright.length_atEvenShares, min_self]
  omega

theorem middle_reverse : middle left.reverse right.reverse = (middle left right).reverse := by
  have hlength := length_middle hleft hright
  have hback := length_middle hleft.reverse hright.reverse
  rw [List.length_reverse, List.length_reverse, ← hlength] at hback
  apply List.ext_getElem?
  intro k
  rcases lt_or_ge k (List.length (middle left right)) with hk | hk
  · have hsteps : List.length (middle left right) - 1 = steps left right := by
      rw [hlength, steps]
    have hle : k ≤ steps left right := by omega
    obtain ⟨v, w, hfound, hpassesleft, hpassesright⟩ :=
      exists_middle hleft.reverse hright.reverse (k := k) (by rwa [steps_reverse])
    obtain ⟨v', w', hfound', hpassesleft', hpassesright'⟩ :=
      exists_middle hleft hright (Nat.sub_le (steps left right) k)
    have hpos : 0 < steps left right := steps_pos hleft right
    simp only [steps_reverse, passes_reverse_share hpos hle] at hpassesleft hpassesright
    obtain rfl : v = v' := (hpassesleft' v).1 ((hpassesleft v).2 rfl)
    obtain rfl : w = w' := (hpassesright' w).1 ((hpassesright w).2 rfl)
    rw [hfound, List.getElem?_reverse hk, hsteps, hfound']
  · rw [List.getElem?_eq_none (by omega), List.getElem?_eq_none (by rwa [List.length_reverse])]

theorem head?_middle : ∃ a ∈ left.head?, ∃ b ∈ right.head?,
    (middle left right).head? = some (vertexBetween a b (1 / 2)) := by
  obtain ⟨a, left, rfl⟩ := List.exists_cons_of_ne_nil hleft.ne_nil
  obtain ⟨b, right, rfl⟩ := List.exists_cons_of_ne_nil hright.ne_nil
  obtain ⟨v, w, hfound, hpassesleft, hpassesright⟩ := exists_middle hleft hright (Nat.zero_le _)
  simp only [Nat.cast_zero, zero_div, zero_mul] at hpassesleft hpassesright
  obtain rfl : a = v := (hpassesleft a).1 (passesFrom_start 0 a left)
  obtain rfl : b = w := (hpassesright b).1 (passesFrom_start 0 b right)
  exact ⟨a, rfl, b, rfl, by rw [List.head?_eq_getElem?, hfound]⟩

theorem getLast?_middle : ∃ a ∈ left.getLast?, ∃ b ∈ right.getLast?,
    (middle left right).getLast? = some (vertexBetween a b (1 / 2)) := by
  have hback := head?_middle hleft.reverse hright.reverse
  rwa [middle_reverse hleft hright, List.head?_reverse, List.head?_reverse, List.head?_reverse]
    at hback

end Bounds

/-- The line between two bounds has as many vertices as the one with more of them. Each vertex is
halfway between the two vertices that the bounds pass after one share of their lengths, and these
shares go up evenly; so the line starts halfway between the starts and ends halfway between the
ends. It is reversed when both bounds are, and does not depend on which bound is the left one. -/
theorem middle_halfway (hleft : IsBound left) (hright : IsBound right) :
    List.length (middle left right) = max (List.length left) (List.length right) ∧
    (∀ k ≤ steps left right, ∃ v w,
      (middle left right)[k]? = some (vertexBetween v w (1 / 2)) ∧
      (∀ u, Passes left (k / steps left right * planarLength left) u ↔ u = v) ∧
      ∀ u, Passes right (k / steps left right * planarLength right) u ↔ u = w) ∧
    (∃ a ∈ left.head?, ∃ b ∈ right.head?,
      (middle left right).head? = some (vertexBetween a b (1 / 2))) ∧
    (∃ a ∈ left.getLast?, ∃ b ∈ right.getLast?,
      (middle left right).getLast? = some (vertexBetween a b (1 / 2))) ∧
    middle left.reverse right.reverse = (middle left right).reverse ∧
    middle right left = middle left right :=
  ⟨length_middle hleft hright, fun _ => exists_middle hleft hright, head?_middle hleft hright,
    getLast?_middle hleft hright, middle_reverse hleft hright, middle_comm left right⟩

/-! ## A bend between two bounds -/

def straightBound : Polyline ℝ := [⟨-1, 1, 0⟩, ⟨1, 1, 1⟩]

def bentBound : Polyline ℝ := [⟨-1, 0, 0⟩, ⟨1, 0, 1⟩, ⟨1, -1, 1⟩]

theorem isBound_straight : IsBound straightBound where
  several := le_rfl
  noRepeats := by norm_num [NoRepeats, straightBound, Vertex.flat]

theorem isBound_bent : IsBound bentBound where
  several := by simp [bentBound]
  noRepeats := by norm_num [NoRepeats, bentBound, Vertex.flat]

theorem step_level (y z z' : ℝ) : step (⟨-1, y, z⟩ : Vertex ℝ) ⟨1, y, z'⟩ = 2 := by
  have hsquare : ((1 : ℝ) - -1) * (1 - -1) = 2 * 2 := by norm_num
  rw [step_eq, sub_self, mul_zero, add_zero, hsquare, Real.sqrt_mul_self zero_le_two]

theorem planarLength_straight : planarLength straightBound = 2 := by
  rw [straightBound, planarLength_cons_cons, planarLength_singleton, step_level, add_zero]

theorem planarLength_bent : planarLength bentBound = 3 := by
  have hdown : step (⟨1, 0, 1⟩ : Vertex ℝ) ⟨1, -1, 1⟩ = 1 := by norm_num [step_eq]
  rw [bentBound, planarLength_cons_cons, planarLength_cons_cons, planarLength_singleton, hdown,
    step_level]
  norm_num

/-- Halfway along the bounds the bend is still ahead. -/
theorem bent_halfway : IsBound straightBound ∧ IsBound bentBound ∧
    List.length (middle straightBound bentBound) = 3 ∧
    (middle straightBound bentBound)[1]? = some ⟨1 / 4, 1 / 2, 5 / 8⟩ ∧
    (middle straightBound.reverse bentBound.reverse)[1]? = some ⟨1 / 4, 1 / 2, 5 / 8⟩ := by
  obtain ⟨hlength, hshares, -, -, hreverse, -⟩ := middle_halfway isBound_straight isBound_bent
  obtain ⟨v, w, hfound, hleft, hright⟩ := hshares 1 (by decide)
  have hhalf : ((1 : Nat) : ℝ) / steps straightBound bentBound = 1 / 2 := by
    simp [steps, straightBound, bentBound]
  rw [hhalf, planarLength_straight] at hleft
  rw [hhalf, planarLength_bent] at hright
  obtain rfl : ⟨0, 1, 1 / 2⟩ = v := (hleft _).1 <| Or.inl
    ⟨1 / 2, by norm_num, by norm_num, by norm_num [step_level], by norm_num [vertexBetween]⟩
  obtain rfl : ⟨1 / 2, 0, 3 / 4⟩ = w := (hright _).1 <| Or.inl
    ⟨3 / 4, by norm_num, by norm_num, by norm_num [step_level], by norm_num [vertexBetween]⟩
  have hplace : vertexBetween ⟨0, 1, 1 / 2⟩ ⟨1 / 2, 0, 3 / 4⟩ (1 / 2) = ⟨1 / 4, 1 / 2, 5 / 8⟩ := by
    norm_num [vertexBetween]
  rw [hplace] at hfound
  have hthree : List.length (middle straightBound bentBound) = 3 := hlength
  refine ⟨isBound_straight, isBound_bent, hthree, hfound, ?_⟩
  rw [hreverse, List.getElem?_reverse (by omega), hthree]
  exact hfound

end Segment

end LaneRoute
