import LaneRoute.Proofs.Network.Acceptance
import LaneRoute.Proofs.Network.Lateral
import Mathlib.Data.Finset.Dedup
import Mathlib.Logic.Relation

/-!
# Groups of lanes

On a network with mutual lateral references the roads fall into groups that are connected by
steps to the side, and the lateral neighbors of a road are its group. A walk to one side stops
at lanes that it has met, so a step to that side leads out of no walk; a step to the other side
leads back to where the walk came from.
-/

set_option autoImplicit false

namespace LaneRoute.RoadNetwork

variable {α : Type} {net : RoadNetwork α}

/-- Roads are beside each other on one side when they are on the other. -/
def Mutual (net : RoadNetwork α) : Prop :=
  ∀ a ∈ net.roads, ∀ b ∈ net.roads,
    (a.left.neighbor = some b.id ∧ a.left.sameDirection.isSet = true) ↔
      (b.right.neighbor = some a.id ∧ b.right.sameDirection.isSet = true)

instance (net : RoadNetwork α) : Decidable net.Mutual :=
  inferInstanceAs (Decidable (∀ a ∈ net.roads, ∀ b ∈ net.roads, _))

def Beside (net : RoadNetwork α) (a b : Int) : Prop :=
  net.besideRoad (·.left) a = some b ∨ net.besideRoad (·.right) a = some b

def Connected (net : RoadNetwork α) : Int → Int → Prop := Relation.ReflTransGen net.Beside

/-! ## Steps to the side -/

theorem besideRoad_eq_some {side : Segment α → Side} {id next : Int} :
    net.besideRoad side id = some next ↔ ∃ s, net.segment? id = some s ∧
      (side s).neighbor = some next ∧ (side s).sameDirection.isSet = true ∧
        net.isRoad next = true := by
  simp only [besideRoad, Option.bind_eq_bind, Option.bind_eq_some_iff]
  constructor
  · rintro ⟨s, hs, n, hn, h⟩
    split at h
    next hroad =>
      obtain rfl := Option.some.inj h
      exact ⟨s, hs, hn, Bool.and_eq_true_iff.1 hroad⟩
    next => cases h
  · rintro ⟨s, hs, hn, hdirection, hroad⟩
    exact ⟨s, hs, next, hn, by simp [hdirection, hroad]⟩

theorem isRoad_of_beside {a b : Int} (h : net.Beside a b) : net.isRoad b = true :=
  h.elim isRoad_of_besideRoad isRoad_of_besideRoad

theorem isRoad_of_connected {a b : Int} (ha : net.isRoad a = true) (h : net.Connected a b) :
    net.isRoad b = true := by
  induction h with
  | refl => exact ha
  | tail _ hstep _ => exact isRoad_of_beside hstep

section Mutual

variable [Scalar α] (hn : net.Accepted) (hm : net.Mutual)

include hn hm in
theorem besideRoad_mutual {a b : Int} (ha : net.isRoad a = true) (hb : net.isRoad b = true) :
    net.besideRoad (·.left) a = some b ↔ net.besideRoad (·.right) b = some a := by
  obtain ⟨s, hs, rfl⟩ := hn.isRoad_iff.1 ha
  obtain ⟨t, ht, rfl⟩ := hn.isRoad_iff.1 hb
  have hss : net.segment? s.id = some s := hn.segment?_eq_some.2 ⟨(List.mem_filter.1 hs).1, rfl⟩
  have htt : net.segment? t.id = some t := hn.segment?_eq_some.2 ⟨(List.mem_filter.1 ht).1, rfl⟩
  rw [besideRoad_eq_some, besideRoad_eq_some]
  simpa [hss, htt, ha, hb] using hm s hs t ht

include hn hm in
theorem beside_symm {a b : Int} (ha : net.isRoad a = true) (h : net.Beside a b) :
    net.Beside b a := by
  have hb := isRoad_of_beside h
  rcases h with h | h
  · exact Or.inr ((besideRoad_mutual hn hm ha hb).1 h)
  · exact Or.inl ((besideRoad_mutual hn hm hb ha).2 h)

include hn hm in
theorem connected_symm {a b : Int} (ha : net.isRoad a = true) (h : net.Connected a b) :
    net.Connected b a := by
  induction h with
  | refl => exact .refl
  | tail hwalk hstep ih =>
    exact .head (beside_symm hn hm (isRoad_of_connected ha hwalk) hstep) ih

end Mutual

/-! ## Walks to one side -/

section Walks

variable {side : Segment α → Side} {visited : List Int} {id : Int}

theorem visited_or_mem_of_step {lane next : Int} (h : lane ∈ id :: net.lanesBeside side visited id)
    (hstep : net.besideRoad side lane = some next) :
    next ∈ visited ∨ next ∈ net.lanesBeside side visited id := by
  fun_induction lanesBeside net side visited id with
  | case1 visited id hnone =>
    obtain rfl : lane = id := by simpa using h
    rw [hnone] at hstep
    cases hstep
  | case2 visited id first hfirst hseen =>
    obtain rfl : lane = id := by simpa using h
    rw [hfirst] at hstep
    obtain rfl := Option.some.inj hstep
    exact Or.inl hseen
  | case3 visited id first hfirst _ ih =>
    rcases List.mem_cons.1 h with rfl | h
    · rw [hfirst] at hstep
      obtain rfl := Option.some.inj hstep
      exact Or.inr List.mem_cons_self
    · rcases ih h with hseen | hlater
      · rcases List.mem_cons.1 hseen with rfl | hseen
        · exact Or.inr List.mem_cons_self
        · exact Or.inl hseen
      · exact Or.inr (List.mem_cons_of_mem first hlater)

theorem mem_of_step {lane next : Int} (h : lane ∈ id :: net.lanesBeside side [id] id)
    (hstep : net.besideRoad side lane = some next) :
    next ∈ id :: net.lanesBeside side [id] id := by
  rcases visited_or_mem_of_step h hstep with hstart | hmem
  · exact List.mem_singleton.1 hstart ▸ List.mem_cons_self
  · exact List.mem_cons_of_mem id hmem

theorem exists_step {lane : Int} (h : lane ∈ net.lanesBeside side visited id) :
    ∃ before ∈ id :: net.lanesBeside side visited id, net.besideRoad side before = some lane := by
  fun_induction lanesBeside net side visited id with
  | case1 => cases h
  | case2 => cases h
  | case3 visited id first hfirst _ ih =>
    rcases List.mem_cons.1 h with rfl | h
    · exact ⟨id, List.mem_cons_self, hfirst⟩
    · obtain ⟨before, hbefore, hstep⟩ := ih h
      exact ⟨before, List.mem_cons_of_mem id hbefore, hstep⟩

theorem mem_of_step_back {other : Segment α → Side} {lane next : Int}
    (hback : ∀ a b, net.isRoad a = true → net.besideRoad side a = some b →
      net.besideRoad other b = some a)
    (hid : net.isRoad id = true) (h : lane ∈ net.lanesBeside side visited id)
    (hstep : net.besideRoad other lane = some next) :
    next ∈ id :: net.lanesBeside side visited id := by
  obtain ⟨before, hbefore, hforth⟩ := exists_step h
  have hroad : net.isRoad before = true := by
    rcases List.mem_cons.1 hbefore with rfl | hmem
    · exact hid
    · exact isRoad_of_mem_lanesBeside hmem
  rw [hback before lane hroad hforth] at hstep
  exact Option.some.inj hstep ▸ hbefore

theorem connected_of_mem_lanesBeside {lane : Int}
    (hside : ∀ a b, net.besideRoad side a = some b → net.Beside a b)
    (h : lane ∈ id :: net.lanesBeside side visited id) : net.Connected id lane := by
  fun_induction lanesBeside net side visited id with
  | case1 => exact List.mem_singleton.1 h ▸ .refl
  | case2 => exact List.mem_singleton.1 h ▸ .refl
  | case3 visited id first hfirst _ ih =>
    rcases List.mem_cons.1 h with rfl | h
    · exact .refl
    · exact .head (hside id first hfirst) (ih h)

end Walks

/-! ## Lateral neighbors -/

/-- The lateral neighbors of a segment, itself included. There are none of an unknown one. -/
def lanes (net : RoadNetwork α) (id : Int) : List Int :=
  (net.lateralNeighbors id).toOption.getD []

theorem exists_segment {id : Int} (h : net.isRoad id = true) :
    ∃ s, net.segment? id = some s ∧ s.isRoad = true := (Option.any_eq_true _ _).1 h

theorem lateralNeighbors_eq_ok {id : Int} (h : net.isRoad id = true) :
    net.lateralNeighbors id = .ok (net.lanes id) := by
  obtain ⟨s, hs, -⟩ := exists_segment h
  simp [lanes, lateralNeighbors, segment, hs, Except.map, Except.toOption]

theorem mem_lanes {id lane : Int} (h : net.isRoad id = true) :
    lane ∈ net.lanes id ↔ lane ∈ id :: net.lanesBeside (·.left) [id] id ∨
      lane ∈ id :: net.lanesBeside (·.right) [id] id := by
  obtain ⟨s, hs, -⟩ := exists_segment h
  simp only [lanes, lateralNeighbors, segment, hs, Except.map, Except.toOption, Option.getD_some,
    List.mem_append, List.mem_reverse, List.mem_cons, List.mem_filter, decide_eq_true_eq]
  tauto

theorem self_mem_lanes {id : Int} (h : net.isRoad id = true) : id ∈ net.lanes id :=
  (mem_lanes h).2 (Or.inl List.mem_cons_self)

section Mutual

variable [Scalar α] (hn : net.Accepted) (hm : net.Mutual)

include hn hm in
theorem mem_lanes_of_beside {id lane next : Int} (hid : net.isRoad id = true)
    (hlane : lane ∈ net.lanes id) (hstep : net.Beside lane next) : next ∈ net.lanes id := by
  have hleft : ∀ a b, net.isRoad a = true → net.besideRoad (·.left) a = some b →
      net.besideRoad (·.right) b = some a := fun a b ha h =>
    (besideRoad_mutual hn hm ha (isRoad_of_besideRoad h)).1 h
  have hright : ∀ a b, net.isRoad a = true → net.besideRoad (·.right) a = some b →
      net.besideRoad (·.left) b = some a := fun a b ha h =>
    (besideRoad_mutual hn hm (isRoad_of_besideRoad h) ha).2 h
  rw [mem_lanes hid] at hlane ⊢
  rcases hstep with hstep | hstep
  · rcases hlane with hlane | hlane
    · exact Or.inl (mem_of_step hlane hstep)
    · rcases List.mem_cons.1 hlane with rfl | hlane
      · exact Or.inl (mem_of_step List.mem_cons_self hstep)
      · exact Or.inr (mem_of_step_back hright hid hlane hstep)
  · rcases hlane with hlane | hlane
    · rcases List.mem_cons.1 hlane with rfl | hlane
      · exact Or.inr (mem_of_step List.mem_cons_self hstep)
      · exact Or.inl (mem_of_step_back hleft hid hlane hstep)
    · exact Or.inr (mem_of_step hlane hstep)

include hn hm in
theorem mem_lanes_iff {id lane : Int} (hid : net.isRoad id = true) :
    lane ∈ net.lanes id ↔ net.Connected id lane := by
  constructor
  · intro h
    rcases (mem_lanes hid).1 h with h | h
    · exact connected_of_mem_lanesBeside (fun _ _ => Or.inl) h
    · exact connected_of_mem_lanesBeside (fun _ _ => Or.inr) h
  · intro h
    induction h with
    | refl => exact self_mem_lanes hid
    | tail _ hstep ih => exact mem_lanes_of_beside hn hm hid ih hstep

end Mutual

/-! ## Abreast -/

def Abreast (net : RoadNetwork α) (a b : Int) : Prop := ∀ lane, lane ∈ net.lanes a ↔ lane ∈ net.lanes b

instance (net : RoadNetwork α) : DecidableRel net.Abreast := fun a b =>
  decidable_of_iff ((net.lanes a).toFinset = (net.lanes b).toFinset) (by
    simp [Finset.ext_iff, Abreast])

theorem Abreast.symm {a b : Int} (h : net.Abreast a b) : net.Abreast b a :=
  fun lane => (h lane).symm

theorem Abreast.trans {a b c : Int} (h : net.Abreast a b) (hnext : net.Abreast b c) :
    net.Abreast a c :=
  fun lane => (h lane).trans (hnext lane)

instance (net : RoadNetwork α) : Std.Symm net.Abreast := ⟨fun _ _ => Abreast.symm⟩

instance (net : RoadNetwork α) : IsTrans Int net.Abreast := ⟨fun _ _ _ => Abreast.trans⟩

section Mutual

variable [Scalar α] (hn : net.Accepted) (hm : net.Mutual) {a b : Int}

include hn hm

theorem abreast_of_connected (ha : net.isRoad a = true) (h : net.Connected a b) :
    net.Abreast a b := by
  have hb := isRoad_of_connected ha h
  intro lane
  rw [mem_lanes_iff hn hm ha, mem_lanes_iff hn hm hb]
  constructor
  · exact (connected_symm hn hm ha h).trans
  · exact h.trans

theorem abreast_iff (ha : net.isRoad a = true) (hb : net.isRoad b = true) :
    net.Abreast a b ↔ b ∈ net.lanes a := by
  constructor
  · intro h
    exact (h b).2 (self_mem_lanes hb)
  · intro h
    exact abreast_of_connected hn hm ha ((mem_lanes_iff hn hm ha).1 h)

theorem abreast_iff_connected (ha : net.isRoad a = true) (hb : net.isRoad b = true) :
    net.Abreast a b ↔ net.Connected a b :=
  (abreast_iff hn hm ha hb).trans (mem_lanes_iff hn hm ha)

theorem abreast_of_mem_lanes {lane : Int} (ha : net.isRoad a = true) (hb : net.isRoad b = true)
    (hlane : lane ∈ net.lanes a) (hlane' : lane ∈ net.lanes b) : net.Abreast a b := by
  have hfirst := abreast_of_connected hn hm ha ((mem_lanes_iff hn hm ha).1 hlane)
  have hsecond := abreast_of_connected hn hm hb ((mem_lanes_iff hn hm hb).1 hlane')
  exact hfirst.trans hsecond.symm

end Mutual

/-! ## A loop with two lanes -/

/-- Two roads abreast, with a change to the left one, and a road from the left one back to the
right one. -/
def ringRoads : List (Segment Rat) :=
  [{ plainRoad 1 [⟨0, 8, 0⟩, ⟨40, 8, 0⟩] [⟨0, 4, 0⟩, ⟨40, 4, 0⟩] [3] with
      right := ⟨some 2, .ofBool true, .ofBool false⟩ },
   { plainRoad 2 [⟨0, 4, 0⟩, ⟨40, 4, 0⟩] [⟨0, 0, 0⟩, ⟨40, 0, 0⟩] [] with
      left := ⟨some 1, .ofBool true, .ofBool true⟩ },
   plainRoad 3 [⟨40, 8, 0⟩, ⟨80, 8, 0⟩] [⟨40, 4, 0⟩, ⟨80, 4, 0⟩] [2]]

def ringNetwork : RoadNetwork Rat := ⟨link ringRoads, [], [], 2⟩

theorem accepted_ring : ringNetwork.Accepted := by
  have hcheck : (check ringRoads).isOk := by decide +kernel
  have hids : (ringRoads.map (·.id)).Pairwise (· ≤ ·) := by simp [ringRoads, plainRoad]
  exact accepted_of_ascending hcheck hids [] [] 2

theorem mutual_ring : ringNetwork.Mutual := by decide +kernel

end LaneRoute.RoadNetwork
