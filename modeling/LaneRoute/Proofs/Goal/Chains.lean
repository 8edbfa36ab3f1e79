import Mathlib.Tactic.Linarith
import LaneRoute.Proofs.Goal.Search
import LaneRoute.Proofs.Network.Groups
import LaneRoute.Proofs.Network.Orders

/-!
# Chains of lanes

In exact arithmetic the budget of a chain never runs out before the chain is too long, so that
a footprint fits exactly when some chain of following roads gives it room: all roads of the
chain but the last one keep to the limit, and the footprint lies in the region and the lanes of
the chain. Each chain is measured by itself, and the order of successors does not matter.
-/

set_option autoImplicit false

namespace LaneRoute.RoadNetwork

variable {α : Type}

def lengthOf [Scalar α] (ss : List (Segment α)) : α := (ss.map (·.length)).sum

/-! ## Budgets -/

theorem foldl_least_mem [Scalar α] (d : α) (ds : List α) :
    ds.foldl (fun least d => if d < least then d else least) d ∈ d :: ds := by
  induction ds generalizing d with
  | nil => simp
  | cons next ds ih =>
    rw [List.foldl_cons]
    have hih := ih (if next < d then next else d)
    split at hih <;> grind

theorem foldl_least_le [Scalar α] [ExactSums α] (d : α) (ds : List α) :
    ∀ x ∈ d :: ds, ds.foldl (fun least d => if d < least then d else least) d ≤ x := by
  induction ds generalizing d with
  | nil => simp
  | cons next ds ih =>
    have hih := ih (if next < d then next else d)
    have hfirst := hih _ List.mem_cons_self
    intro x hx
    rw [List.foldl_cons]
    by_cases hlt : next < d
    · rw [if_pos hlt] at hih hfirst ⊢
      rcases List.mem_cons.1 hx with rfl | hx
      · exact hfirst.trans hlt.le
      · exact hih x hx
    · rw [if_neg hlt] at hih hfirst ⊢
      rcases List.mem_cons.1 hx with rfl | hx
      · exact hfirst
      · rcases List.mem_cons.1 hx with rfl | hx
        · exact hfirst.trans (not_lt.1 hlt)
        · exact hih x (List.mem_cons_of_mem _ hx)

section Budgets

variable [Planar α] [ExactQuotients α]

theorem exists_shortest {net : RoadNetwork α} {s : Segment α} (hs : s ∈ net.segments) :
    ∃ least, net.shortest? = some least ∧ (∃ t ∈ net.segments, t.length = least) ∧
      ∀ t ∈ net.segments, least ≤ t.length := by
  unfold shortest?
  split
  next hnil => simp [List.map_eq_nil_iff.1 hnil] at hs
  next d ds hlengths =>
    refine ⟨_, rfl, ?_, ?_⟩
    · have hmem := foldl_least_mem d ds
      rw [← hlengths] at hmem
      exact List.mem_map.1 hmem
    · intro t ht
      apply foldl_least_le
      rw [← hlengths]
      exact List.mem_map_of_mem ht

/-- A chain has taken some segments from its budget, none of them shorter than the least one,
and it is not too long. -/
def Ample (net : RoadNetwork α) (limit least : α) (chain : Chain α) : Prop :=
  ∃ taken, net.chainBudget limit ≤ chain.budget + taken ∧ taken • least ≤ chain.length ∧
    (taken = 0 ∨ chain.length ≤ limit)

variable {net : RoadNetwork α} {limit least : α}

theorem chainBudget_eq (hleast : net.shortest? = some least) :
    net.chainBudget limit = (Scalar.ceiling (limit / least)).toNat + 2 := by
  have hexact : (Scalar.isNumber (limit / least) && Scalar.isFinite (limit / least)) = true := by
    simp [Scalar.isNumber, Scalar.isFinite, ExactSums.bounded]
  simp only [chainBudget, hleast, hexact, if_true]

theorem Ample.budget_pos {chain : Chain α} (hleast : net.shortest? = some least)
    (hpos : 0 < least) (h : net.Ample limit least chain) : 0 < chain.budget := by
  obtain ⟨taken, hbudget, hlong, hlimit⟩ := h
  rw [chainBudget_eq hleast] at hbudget
  rcases hlimit with rfl | hlimit
  · omega
  · have hceiling := ExactQuotients.le_ceiling limit least taken hpos (hlong.trans hlimit)
    omega

omit [ExactQuotients α] in
theorem Chain.eq_of_extend {chain longer : Chain α} {budget : Nat} {t : Segment α}
    (h : chain.extend net budget t = .ok longer) :
    ∃ region, longer = ⟨t.id, region, chain.length + t.length, budget⟩ := by
  obtain ⟨_, -, h⟩ := Fallible.bind_eq_ok.1 h
  obtain ⟨region, -, h⟩ := Fallible.bind_eq_ok.1 h
  exact ⟨region, (Fallible.pure_eq_ok.1 h).symm⟩

theorem Ample.extend {chain longer : Chain α} {budget : Nat} {t : Segment α}
    (h : net.Ample limit least chain) (hbudget : chain.budget = budget + 1)
    (hextend : chain.extend net budget t = .ok longer) (ht : least ≤ t.length)
    (hlimit : longer.length ≤ limit) : net.Ample limit least longer := by
  obtain ⟨taken, hleft, hlong, -⟩ := h
  obtain ⟨region, rfl⟩ := Chain.eq_of_extend hextend
  refine ⟨taken + 1, ?_, ?_, Or.inr hlimit⟩
  · change net.chainBudget limit ≤ budget + (taken + 1)
    omega
  · rw [succ_nsmul]
    exact add_le_add hlong ht

end Budgets

/-! ## Room -/

section Rooms

variable [Planar α] [PointSets α]

/-- Roads that follow a chain one after another, as long as the limit allows, and together with
it give room to a footprint. -/
structure Room (net : RoadNetwork α) (limit : α) (footprint : Ring α) (chain : Chain α)
    (s : Segment α) (ss : List (Segment α)) : Prop where
  linked : (s :: ss).IsChain net.Precedes
  short : ∀ j, 0 < j → j < ss.length → chain.length + lengthOf (ss.take j) ≤ limit
  held : PointSets.points footprint ⊆
    chain.region.points ∪ Region.ground (ss.flatMap net.withShoulders)

structure Extended (net : RoadNetwork α) (chain : Chain α) (t : Segment α) (longer : Chain α) :
    Prop where
  last : longer.last = t.id
  length : longer.length = chain.length + t.length
  points : longer.region.points = chain.region.points ∪ Region.ground (net.withShoulders t)

variable {net : RoadNetwork α} {limit : α} {footprint : Ring α}

theorem extended_of_extend {chain longer : Chain α} {budget : Nat} {t : Segment α}
    (h : chain.extend net budget t = .ok longer) : net.Extended chain t longer := by
  obtain ⟨added, hadded, h⟩ := Fallible.bind_eq_ok.1 h
  obtain ⟨region, hregion, h⟩ := Fallible.bind_eq_ok.1 h
  obtain rfl := Fallible.pure_eq_ok.1 h
  constructor
  · rfl
  · rfl
  · change region.points = _
    rw [Region.points_unite hregion, Region.points_ofRings hadded]

theorem room_nil_iff {chain : Chain α} {s : Segment α} :
    net.Room limit footprint chain s [] ↔ chain.holds footprint = .ok true := by
  constructor
  · intro h
    have hheld := h.held
    rw [List.flatMap_nil, Region.ground_nil, Set.union_empty] at hheld
    exact (PointSets.covers_iff chain.region footprint).2 hheld
  · intro h
    refine ⟨List.IsChain.singleton s, by simp, ?_⟩
    have hheld := (PointSets.covers_iff chain.region footprint).1 h
    exact hheld.trans Set.subset_union_left

variable [ExactQuotients α]

theorem room_cons_iff {chain longer : Chain α} {s t : Segment α} {rest : List (Segment α)}
    (h : net.Extended chain t longer) :
    net.Room limit footprint chain s (t :: rest) ↔
      net.Precedes s t ∧ (rest ≠ [] → longer.length ≤ limit) ∧
        net.Room limit footprint longer t rest := by
  have hground : chain.region.points ∪ Region.ground ((t :: rest).flatMap net.withShoulders) =
      longer.region.points ∪ Region.ground (rest.flatMap net.withShoulders) := by
    rw [h.points, List.flatMap_cons, Region.ground_append, Set.union_assoc]
  have hlength : ∀ j, chain.length + lengthOf ((t :: rest).take (j + 1)) =
      longer.length + lengthOf (rest.take j) := by
    intro j
    rw [h.length, add_assoc]
    rfl
  constructor
  · rintro ⟨hlinked, hshort, hheld⟩
    obtain ⟨hprecedes, hlinked⟩ := List.isChain_cons_cons.1 hlinked
    refine ⟨hprecedes, ?_, hlinked, ?_, hground ▸ hheld⟩
    · intro hrest
      have hpos := List.length_pos_iff.2 hrest
      have hone := hshort 1 (by omega) (by simpa using hpos)
      rw [hlength 0] at hone
      simpa [lengthOf] using hone
    · intro j _ hj
      rw [← hlength j]
      exact hshort (j + 1) (by omega) (by simpa using hj)
  · rintro ⟨hprecedes, hfirst, hlinked, hshort, hheld⟩
    refine ⟨List.isChain_cons_cons.2 ⟨hprecedes, hlinked⟩, ?_, hground ▸ hheld⟩
    intro j hj hlt
    cases j with
    | zero => omega
    | succ j =>
      rw [hlength j]
      cases j with
      | zero =>
        have hrest : rest ≠ [] := List.length_pos_iff.1 (by simpa using hlt)
        simpa [lengthOf] using hfirst hrest
      | succ j => exact hshort (j + 1) (by omega) (by simpa using hlt)

theorem exists_room_of_grows {chain : Chain α} (h : net.Grows limit footprint chain) :
    ∀ s, net.segment? chain.last = some s → ∃ ss, net.Room limit footprint chain s ss := by
  induction h with
  | here hheld => exact fun s _ => ⟨[], room_nil_iff.2 hheld⟩
  | ends hstep hends =>
    intro s hs
    obtain ⟨budget, s', t, -, hs', hprecedes, hextend⟩ := hstep
    obtain rfl := Option.some.inj (hs.symm.trans hs')
    have hextended := extended_of_extend hextend
    exact ⟨[t], (room_cons_iff hextended).2 ⟨hprecedes, by simp, room_nil_iff.2 hends.2⟩⟩
  | onward hstep hshort _ ih =>
    intro s hs
    obtain ⟨budget, s', t, -, hs', hprecedes, hextend⟩ := hstep
    obtain rfl := Option.some.inj (hs.symm.trans hs')
    have hextended := extended_of_extend hextend
    obtain ⟨ss, hss⟩ := ih t (hextended.last ▸ segment?_of_precedes hprecedes)
    have hlimit := not_lt.1 (of_decide_eq_false hshort)
    exact ⟨t :: ss, (room_cons_iff hextended).2 ⟨hprecedes, fun _ => hlimit, hss⟩⟩

theorem grows_of_room {least : α} (hleast : net.shortest? = some least) (hpos : 0 < least)
    (hle : ∀ t ∈ net.segments, least ≤ t.length) {ss : List (Segment α)} {chain : Chain α}
    {s : Segment α} (hs : net.segment? chain.last = some s)
    (hample : net.Ample limit least chain) (h : net.Room limit footprint chain s ss) :
    net.Grows limit footprint chain := by
  induction ss generalizing chain s with
  | nil => exact Grows.here (room_nil_iff.1 h)
  | cons t rest ih =>
    obtain ⟨budget, hbudget⟩ := Nat.exists_eq_add_of_lt (hample.budget_pos hleast hpos)
    rw [Nat.zero_add] at hbudget
    obtain ⟨longer, hextend⟩ := exists_extend net chain budget t
    have hextended := extended_of_extend hextend
    obtain ⟨hprecedes, hfirst, hroom⟩ := (room_cons_iff hextended).1 h
    have hstep : net.Follows chain longer := ⟨budget, s, t, hbudget, hs, hprecedes, hextend⟩
    by_cases hexceeds : longer.exceeds limit = true
    · -- a chain that is too long has no further road in the room
      have hlong : limit < longer.length := of_decide_eq_true hexceeds
      obtain rfl : rest = [] := by
        by_contra hrest
        exact absurd (hfirst hrest) (not_le.2 hlong)
      exact Grows.ends hstep ⟨hexceeds, room_nil_iff.1 hroom⟩
    · have hlimit : longer.length ≤ limit := by simpa [Chain.exceeds] using hexceeds
      have hmore := hample.extend hbudget hextend (hle t (mem_segments_of_precedes hprecedes)) hlimit
      have hgrows := ih (hextended.last ▸ segment?_of_precedes hprecedes) hmore hroom
      exact Grows.onward hstep (by simpa using hexceeds) hgrows

/-- Roads, all but the last of which keep to the limit together, whose lanes and the shoulders
beside them make room for a footprint together with a region. -/
structure MakesRoom (net : RoadNetwork α) (limit : α) (region : Region α) (footprint : Ring α)
    (ss : List (Segment α)) : Prop where
  short : ∀ j, 0 < j → j < ss.length → lengthOf (ss.take j) ≤ limit
  held : PointSets.points footprint ⊆
    region.points ∪ Region.ground (ss.flatMap net.withShoulders)

/-- Some chain of roads after a segment makes room for a footprint. -/
def Fits (net : RoadNetwork α) (limit : α) (s : Segment α) (region : Region α)
    (footprint : Ring α) : Prop :=
  ∃ ss, (s :: ss).IsChain net.Precedes ∧ net.MakesRoom limit region footprint ss

omit [ExactQuotients α] in
theorem fits_iff_branch {s : Segment α} {region : Region α} :
    net.Fits limit s region footprint ↔ net.MakesRoom limit region footprint [] ∨
      ∃ t, net.Precedes s t ∧ ∃ ss, (t :: ss).IsChain net.Precedes ∧
        net.MakesRoom limit region footprint (t :: ss) := by
  constructor
  · rintro ⟨ss, hlinked, hroom⟩
    cases ss with
    | nil => exact Or.inl hroom
    | cons t ss =>
      obtain ⟨hprecedes, hlinked⟩ := List.isChain_cons_cons.1 hlinked
      exact Or.inr ⟨t, hprecedes, ss, hlinked, hroom⟩
  · rintro (hroom | ⟨t, hprecedes, ss, hlinked, hroom⟩)
    · exact ⟨[], List.IsChain.singleton s, hroom⟩
    · exact ⟨t :: ss, List.isChain_cons_cons.2 ⟨hprecedes, hlinked⟩, hroom⟩

theorem fits_iff_room {s : Segment α} {region : Region α} {budget : Nat} :
    net.Fits limit s region footprint ↔
      ∃ ss, net.Room limit footprint ⟨s.id, region, 0, budget⟩ s ss := by
  constructor
  · rintro ⟨ss, hlinked, hshort, hheld⟩
    refine ⟨ss, hlinked, ?_, hheld⟩
    intro j hj hlt
    rw [zero_add]
    exact hshort j hj hlt
  · rintro ⟨ss, hlinked, hshort, hheld⟩
    refine ⟨ss, hlinked, ?_, hheld⟩
    intro j hj hlt
    have hlimit := hshort j hj hlt
    rw [zero_add] at hlimit
    exact hlimit

theorem grows_iff_fits {id : Int} {s : Segment α} {region : Region α} (hn : net.Accepted)
    (hs : net.segment? id = some s) :
    net.Grows limit footprint ⟨s.id, region, 0, net.chainBudget limit⟩ ↔
      net.Fits limit s region footprint := by
  obtain ⟨hmem, hid⟩ := hn.segment?_eq_some.1 hs
  have hlast : net.segment? s.id = some s := hid ▸ hs
  obtain ⟨least, hleast, ⟨t, ht, hlength⟩, hle⟩ := exists_shortest hmem
  have hpos : 0 < least := hlength ▸ hn.length_pos ht
  have hample : net.Ample limit least ⟨s.id, region, 0, net.chainBudget limit⟩ :=
    ⟨0, le_refl _, (zero_nsmul least).le, Or.inl rfl⟩
  rw [fits_iff_room]
  constructor
  · intro h
    exact exists_room_of_grows h s hlast
  · rintro ⟨ss, hss⟩
    exact grows_of_room hleast hpos hle hlast hample hss

omit [ExactQuotients α] in
theorem Fits.reorder {other : RoadNetwork α} (h : net.Reorders other) {s t : Segment α}
    (hst : Alike s t) {region : Region α} (hfits : net.Fits limit s region footprint) :
    other.Fits limit t region footprint := by
  obtain ⟨ss, hlinked, hshort, hheld⟩ := hfits
  obtain ⟨ts, hlinked', halike⟩ := h.chain hst hlinked
  have hlengths := length_eq_of_alike halike
  refine ⟨ts, hlinked', ?_, h.flatMap_withShoulders halike ▸ hheld⟩
  intro j hj hlt
  have hlimit := hshort j hj (halike.length_eq ▸ hlt)
  rw [lengthOf, List.map_take, hlengths, ← List.map_take] at hlimit
  exact hlimit

/-- A footprint fits at a known segment exactly when some chain of roads makes room for it. Each
branch is measured by itself, and the order of successors does not matter. -/
theorem footprintFits_iff_fits {id : Int} {s : Segment α} (hn : net.Accepted)
    (hs : net.segment? id = some s) (limit : α) (region : Region α) (footprint : Ring α) :
    ∃ fits, net.footprintFits limit id region footprint = .ok fits ∧
      (fits = true ↔ ∃ ss, (s :: ss).IsChain net.Precedes ∧
        net.MakesRoom limit region footprint ss) ∧
      (fits = true ↔ net.MakesRoom limit region footprint [] ∨
        ∃ t, net.Precedes s t ∧ ∃ ss, (t :: ss).IsChain net.Precedes ∧
          net.MakesRoom limit region footprint (t :: ss)) ∧
      ∀ other : RoadNetwork α, other.Accepted → net.Reorders other →
        other.footprintFits limit id region footprint = .ok fits := by
  obtain ⟨fits, hfits, hiff⟩ := footprintFits_eq_ok net limit footprint hs region
  rw [grows_iff_fits hn hs] at hiff
  refine ⟨fits, hfits, hiff, hiff.trans fits_iff_branch, ?_⟩
  intro other hother hreorder
  obtain ⟨t, ht, hst⟩ := find?_alike hreorder hs
  obtain ⟨fits', hfits', hiff'⟩ := footprintFits_eq_ok other limit footprint ht region
  rw [grows_iff_fits hother ht] at hiff'
  have hsame : fits' = true ↔ fits = true := by
    rw [hiff, hiff']
    exact ⟨Fits.reorder hreorder.symm hst.symm, Fits.reorder hreorder hst⟩
  rw [hfits', Bool.eq_iff_iff.2 hsame]

end Rooms

section Rectangles

noncomputable local instance (priority := high) : Planar Rat := Rational.pointwise

noncomputable local instance : PointSets Rat := Rational.pointSets

theorem exists_ring_lanes : ∃ s t, ringNetwork.segment? 1 = some s ∧ ringNetwork.Precedes s t ∧
    s.outline.box = ⟨0, 4, 40, 8⟩ ∧ t.outline.box = ⟨40, 4, 80, 8⟩ := by
  refine ⟨_, _, rfl, List.mem_of_mem_head? rfl, ?_, ?_⟩
  · rfl
  · rfl

/-- A footprint across the end of a lane fits into this lane and the next one. -/
theorem ring_fits : ∃ s, ringNetwork.Accepted ∧ ringNetwork.segment? 1 = some s ∧
    ringNetwork.footprintFits 1 1 (.single s.outline) (Ring.Box.ring ⟨38, 5, 42, 7⟩) = .ok true := by
  obtain ⟨s, t, hs, hprecedes, hfirst, hsecond⟩ := exists_ring_lanes
  obtain ⟨fits, hfits, hiff, -⟩ := footprintFits_iff_fits accepted_ring hs 1 (.single s.outline)
    (Ring.Box.ring ⟨38, 5, 42, 7⟩)
  have hcovered : Rational.boxPoints (Ring.Box.ring ⟨38, 5, 42, 7⟩) ⊆
      Rational.boxPoints s.outline ∪ Region.ground ([t].flatMap ringNetwork.withShoulders) := by
    intro p hp
    change Ring.Box.holds ⟨38, 5, 42, 7⟩ p = true at hp
    by_cases hx : p.x ≤ 40
    · left
      change s.outline.box.holds p = true
      rw [hfirst]
      simp only [Ring.Box.holds, Bool.and_eq_true, decide_eq_true_eq] at hp ⊢
      refine ⟨⟨⟨?_, hx⟩, ?_⟩, ?_⟩ <;> linarith
    · right
      refine Region.mem_ground.2 ⟨t.outline, by simp [withShoulders], ?_⟩
      change t.outline.box.holds p = true
      rw [hsecond]
      simp only [Ring.Box.holds, Bool.and_eq_true, decide_eq_true_eq] at hp ⊢
      refine ⟨⟨⟨?_, ?_⟩, ?_⟩, ?_⟩ <;> linarith
  have hlinked : [s, t].IsChain ringNetwork.Precedes :=
    List.IsChain.cons_cons hprecedes (List.IsChain.singleton t)
  have hfit : fits = true := hiff.2 ⟨[t], hlinked, by simp; omega, hcovered⟩
  exact ⟨s, accepted_ring, hs, hfit ▸ hfits⟩

end Rectangles

end LaneRoute.RoadNetwork
