import LaneRoute.Proofs.Network.Groups
import Mathlib.Data.List.Chain

/-!
# Rows of lanes

On a network with mutual lateral references, to be a lateral neighbor is an equivalence of
roads. The lanes of a group whose steps to the left do not lead in a circle form a row, from a
lane with nothing on its left to one with nothing on its right. Two rows with a common lane are
the same, so each lane of such a group lists it in the same order.
-/

set_option autoImplicit false

namespace LaneRoute.RoadNetwork

variable {α : Type} {net : RoadNetwork α}

def Steps (net : RoadNetwork α) (side : Segment α → Side) (a b : Int) : Prop :=
  net.besideRoad side a = some b

/-- Steps to one side lead back to where they began. -/
def Circles (net : RoadNetwork α) (side : Segment α → Side) (id : Int) : Prop :=
  Relation.TransGen (net.Steps side) id id

/-- Roads from left to right, with nothing beside the outer ones. -/
structure Row (net : RoadNetwork α) (lanes : List Int) : Prop where
  roads : ∀ lane ∈ lanes, net.isRoad lane = true
  chain : lanes.IsChain (net.Steps (·.right))
  left : ∀ lane ∈ lanes.head?, net.besideRoad (·.left) lane = none
  right : ∀ lane ∈ lanes.getLast?, net.besideRoad (·.right) lane = none

/-! ## Walks as chains -/

section Walks

variable {side other : Segment α → Side} {visited : List Int} {id : Int}

theorem Steps.unique {a b c : Int} (hb : net.Steps side a b) (hc : net.Steps side a c) : b = c :=
  Option.some.inj (hb.symm.trans hc)

theorem isChain_lanesBeside :
    (id :: net.lanesBeside side visited id).IsChain (net.Steps side) := by
  fun_induction lanesBeside net side visited id with
  | case1 => exact .singleton _
  | case2 => exact .singleton _
  | case3 visited id first hfirst _ ih => exact .cons_cons hfirst ih

theorem isChain_back (hback : ∀ a b, net.isRoad a = true → net.Steps side a b → net.Steps other b a)
    {lanes : List Int} (hroads : ∀ lane ∈ lanes, net.isRoad lane = true)
    (h : lanes.IsChain (net.Steps side)) : lanes.reverse.IsChain (net.Steps other) := by
  rw [List.isChain_reverse]
  induction h with
  | nil => exact .nil
  | singleton lane => exact .singleton lane
  | @cons_cons a b rest hstep _ ih =>
    refine .cons_cons (hback a b (hroads a (by simp)) hstep) (ih fun lane hlane => ?_)
    exact hroads lane (List.mem_cons_of_mem a hlane)

theorem reaches_getLast {lanes : List Int} {lane last : Int} (h : lanes.IsChain (net.Steps side))
    (hlane : lane ∈ lanes) (hlast : last ∈ lanes.getLast?) :
    Relation.ReflTransGen (net.Steps side) lane last := by
  induction h generalizing lane with
  | nil => cases hlane
  | singleton a =>
    obtain rfl : lane = a := List.mem_singleton.1 hlane
    obtain rfl : lane = last := by simpa using hlast
    exact .refl
  | @cons_cons a b rest hstep _ ih =>
    have hlast : last ∈ (b :: rest).getLast? := by rwa [List.getLast?_cons_cons] at hlast
    rcases List.mem_cons.1 hlane with rfl | hlane
    · exact .head hstep (ih (by simp) hlast)
    · exact ih hlane hlast

theorem steps_of_mem_lanesBeside {lane : Int} (h : lane ∈ net.lanesBeside side visited id) :
    Relation.TransGen (net.Steps side) id lane := by
  fun_induction lanesBeside net side visited id with
  | case1 => cases h
  | case2 => cases h
  | case3 visited id first hfirst _ ih =>
    rcases List.mem_cons.1 h with rfl | h
    · exact .single hfirst
    · exact .head hfirst (ih h)

theorem eq_of_isChain {a : Int} {xs ys : List Int} (hx : (a :: xs).IsChain (net.Steps side))
    (hy : (a :: ys).IsChain (net.Steps side))
    (hxlast : ∀ lane ∈ (a :: xs).getLast?, net.besideRoad side lane = none)
    (hylast : ∀ lane ∈ (a :: ys).getLast?, net.besideRoad side lane = none) : xs = ys := by
  induction xs generalizing a ys with
  | nil =>
    cases ys with
    | nil => rfl
    | cons c ys =>
      have hstep := hy.rel
      rw [Steps, hxlast a (by simp)] at hstep
      cases hstep
  | cons b xs ih =>
    cases ys with
    | nil =>
      have hstep := hx.rel
      rw [Steps, hylast a (by simp)] at hstep
      cases hstep
    | cons c ys =>
      obtain rfl : b = c := hx.rel.unique hy.rel
      rw [List.getLast?_cons_cons] at hxlast hylast
      rw [ih hx.tail hy.tail hxlast hylast]

end Walks

/-! ## Circles -/

section Circles

variable {side other : Segment α → Side}

theorem Circles.step {a b : Int} (h : net.Circles side a) (hstep : net.Steps side a b) :
    net.Circles side b := by
  obtain ⟨c, hfirst, hrest⟩ := Relation.TransGen.head'_iff.1 h
  obtain rfl : c = b := hfirst.unique hstep
  exact .tail' hrest hstep

theorem isRoad_of_steps {a b : Int} (h : Relation.TransGen (net.Steps side) a b) :
    net.isRoad b = true := by
  cases h with
  | single hstep => exact isRoad_of_besideRoad hstep
  | tail _ hstep => exact isRoad_of_besideRoad hstep

theorem steps_back (hback : ∀ a b, net.isRoad a = true → net.Steps side a b → net.Steps other b a)
    {a b : Int} (ha : net.isRoad a = true) (h : Relation.TransGen (net.Steps side) a b) :
    Relation.TransGen (net.Steps other) b a := by
  induction h with
  | single hstep => exact .single (hback _ _ ha hstep)
  | tail hwalk hstep ih => exact .head (hback _ _ (isRoad_of_steps hwalk) hstep) ih

end Circles

section Mutual

variable [Scalar α] (hn : net.Accepted) (hm : net.Mutual)

include hn hm in
theorem steps_right_of_left (a b : Int) (ha : net.isRoad a = true)
    (h : net.Steps (·.left) a b) : net.Steps (·.right) b a :=
  (besideRoad_mutual hn hm ha (isRoad_of_besideRoad h)).1 h

include hn hm in
theorem steps_left_of_right (a b : Int) (ha : net.isRoad a = true)
    (h : net.Steps (·.right) a b) : net.Steps (·.left) b a :=
  (besideRoad_mutual hn hm (isRoad_of_besideRoad h) ha).2 h

include hn hm in
theorem circles_right_iff {a : Int} (ha : net.isRoad a = true) :
    net.Circles (·.right) a ↔ net.Circles (·.left) a :=
  ⟨steps_back (steps_left_of_right hn hm) ha, steps_back (steps_right_of_left hn hm) ha⟩

include hn hm in
theorem circles_of_connected {a b : Int} (ha : net.isRoad a = true) (h : net.Connected a b)
    (hcircle : net.Circles (·.left) a) : net.Circles (·.left) b := by
  induction h with
  | refl => exact hcircle
  | @tail b c hwalk hstep ih =>
    have hb := isRoad_of_connected ha hwalk
    have hc := isRoad_of_beside hstep
    rcases hstep with hstep | hstep
    · exact ih.step hstep
    · have hright := ((circles_right_iff hn hm hb).2 ih).step hstep
      exact (circles_right_iff hn hm hc).1 hright

end Mutual

/-! ## Rows -/

theorem besideRoad_getLast {side : Segment α → Side} {id : Int}
    (hcircle : ∀ lane ∈ id :: net.lanesBeside side [id] id, ¬ net.Circles side lane) :
    ∀ lane ∈ (id :: net.lanesBeside side [id] id).getLast?, net.besideRoad side lane = none := by
  intro last hlast
  cases hstep : net.besideRoad side last with
  | none => rfl
  | some next =>
    have hnext := mem_of_step (List.mem_of_getLast? hlast) hstep
    have hwalk := reaches_getLast isChain_lanesBeside hnext hlast
    exact absurd (.tail' hwalk hstep) (hcircle next hnext)

theorem lanes_eq {id : Int} (h : net.isRoad id = true) :
    net.lanes id = (net.lanesBeside (·.left) [id] id).reverse ++ id ::
      (net.lanesBeside (·.right) [id] id).filter (· ∉ net.lanesBeside (·.left) [id] id) := by
  obtain ⟨s, hs, -⟩ := exists_segment h
  simp [lanes, lateralNeighbors, segment, hs, Except.map, Except.toOption]

section Mutual

variable [Scalar α] (hn : net.Accepted) (hm : net.Mutual)

include hn hm

theorem Row.eq_of_mem {lane : Int} {xs ys : List Int} (hx : net.Row xs) (hy : net.Row ys)
    (hlane : lane ∈ xs) (hlane' : lane ∈ ys) : xs = ys := by
  obtain ⟨before, after, rfl⟩ := List.append_of_mem hlane
  obtain ⟨before', after', rfl⟩ := List.append_of_mem hlane'
  have hafter : after = after' := by
    apply eq_of_isChain (List.isChain_split.1 hx.chain).2 (List.isChain_split.1 hy.chain).2
    · simpa using hx.right
    · simpa using hy.right
  -- what is on the left of the lane is read backwards
  have hleft : ∀ {before after : List Int}, net.Row (before ++ lane :: after) →
      (lane :: before.reverse).IsChain (net.Steps (·.left)) ∧
        ∀ a ∈ (lane :: before.reverse).getLast?, net.besideRoad (·.left) a = none := by
    intro before after h
    have hreverse : lane :: before.reverse = (before ++ [lane]).reverse := by simp
    have hroads : ∀ a ∈ before ++ [lane], net.isRoad a = true := by
      intro a ha
      apply h.roads a
      simp only [List.mem_append, List.mem_cons] at ha ⊢
      tauto
    rw [hreverse]
    constructor
    · exact isChain_back (steps_left_of_right hn hm) hroads (List.isChain_split.1 h.chain).1
    · have hfirst := h.left
      rw [List.getLast?_reverse]
      cases before <;> simpa using hfirst
  have hbefore : before.reverse = before'.reverse :=
    eq_of_isChain (hleft hx).1 (hleft hy).1 (hleft hx).2 (hleft hy).2
  rw [hafter, List.reverse_inj.1 hbefore]

theorem row_lanes {id : Int} (hid : net.isRoad id = true) (hcircle : ¬ net.Circles (·.left) id) :
    net.Row (net.lanes id) := by
  have hleft : ∀ lane, net.Connected id lane → ¬ net.Circles (·.left) lane := by
    intro lane hlane h
    have hroad := isRoad_of_connected hid hlane
    exact hcircle (circles_of_connected hn hm hroad (connected_symm hn hm hid hlane) h)
  have hright : ∀ lane, net.Connected id lane → ¬ net.Circles (·.right) lane := by
    intro lane hlane h
    exact hleft lane hlane ((circles_right_iff hn hm (isRoad_of_connected hid hlane)).1 h)
  have hapart : ∀ lane ∈ net.lanesBeside (·.right) [id] id,
      lane ∉ net.lanesBeside (·.left) [id] id := by
    intro lane hr hl
    have hback := steps_back (steps_left_of_right hn hm) hid (steps_of_mem_lanesBeside hr)
    exact hcircle ((steps_of_mem_lanesBeside hl).trans hback)
  have hlanes : net.lanes id =
      (id :: net.lanesBeside (·.left) [id] id).reverse ++ net.lanesBeside (·.right) [id] id := by
    rw [lanes_eq hid, List.filter_eq_self.2 (by simpa using hapart)]
    simp
  have hroads : ∀ side : Segment α → Side, ∀ lane ∈ id :: net.lanesBeside side [id] id,
      net.isRoad lane = true := by
    intro side lane hlane
    rcases List.mem_cons.1 hlane with rfl | hlane
    · exact hid
    · exact isRoad_of_mem_lanesBeside hlane
  constructor
  case roads =>
    intro lane hlane
    rcases (mem_lanes hid).1 hlane with hlane | hlane
    · exact hroads _ lane hlane
    · exact hroads _ lane hlane
  case chain =>
    have hback := isChain_back (steps_right_of_left hn hm) (hroads (·.left)) isChain_lanesBeside
    rw [List.reverse_cons] at hback
    rw [hlanes, List.reverse_cons, List.append_assoc, List.singleton_append, List.isChain_split]
    exact ⟨hback, isChain_lanesBeside⟩
  case left =>
    have hends : ∀ lane ∈ id :: net.lanesBeside (·.left) [id] id,
        ¬ net.Circles (·.left) lane := fun lane hlane =>
      hleft lane (connected_of_mem_lanesBeside (fun _ _ => Or.inl) hlane)
    intro lane hlane
    apply besideRoad_getLast hends lane
    rw [hlanes, List.head?_append, List.head?_reverse] at hlane
    simpa using hlane
  case right =>
    have hends : ∀ lane ∈ id :: net.lanesBeside (·.right) [id] id,
        ¬ net.Circles (·.right) lane := fun lane hlane =>
      hright lane (connected_of_mem_lanesBeside (fun _ _ => Or.inr) hlane)
    intro lane hlane
    apply besideRoad_getLast hends lane
    rw [hlanes] at hlane
    simpa using hlane

/-! ## The equivalence -/

/-- The lateral neighbors of every road are found, and to be one of them is an equivalence of
roads: each road is among its own, the relation is mutual, and the members of one list have
lists with the same lanes. When the steps to the left from some member do not lead back to it,
all members even have the same list, which is their row from left to right. -/
theorem lateralNeighbors_equivalence :
    (∀ a, net.isRoad a = true → net.lateralNeighbors a = .ok (net.lanes a)) ∧
    Equivalence (fun a b : { id // net.isRoad id = true } => b.1 ∈ net.lanes a.1) ∧
    (∀ a b, net.isRoad a = true → b ∈ net.lanes a →
      net.isRoad b = true ∧ ∀ lane, lane ∈ net.lanes b ↔ lane ∈ net.lanes a) ∧
    ∀ a member, net.isRoad a = true → member ∈ net.lanes a → ¬ net.Circles (·.left) member →
      net.Row (net.lanes a) ∧ ∀ b ∈ net.lanes a, net.lateralNeighbors b = .ok (net.lanes a) := by
  have habreast : ∀ {a b : Int}, net.isRoad a = true → b ∈ net.lanes a →
      net.isRoad b = true ∧ net.Abreast b a := by
    intro a b ha hb
    have hconnected := (mem_lanes_iff hn hm ha).1 hb
    exact ⟨isRoad_of_connected ha hconnected, (abreast_of_connected hn hm ha hconnected).symm⟩
  refine ⟨fun a => lateralNeighbors_eq_ok, ?equivalence, fun a b => habreast, ?order⟩
  case equivalence =>
    constructor
    · intro a
      exact self_mem_lanes a.2
    · intro a b hb
      exact ((habreast a.2 hb).2 a.1).2 (self_mem_lanes a.2)
    · intro a b c hb hc
      exact ((habreast a.2 hb).2 c.1).1 hc
  case order =>
    intro a member ha hmember hcircle
    obtain ⟨hroad, habreast'⟩ := habreast ha hmember
    have hrow : ∀ {b : Int}, b ∈ net.lanes a → net.Row (net.lanes b) := by
      intro b hb
      have hmb : b ∈ net.lanes member := (habreast' b).2 hb
      have hconnected := (mem_lanes_iff hn hm hroad).1 hmb
      have hback := connected_symm hn hm hroad hconnected
      apply row_lanes hn hm (habreast ha hb).1
      exact fun h => hcircle (circles_of_connected hn hm (habreast ha hb).1 hback h)
    refine ⟨hrow (self_mem_lanes ha), fun b hb => ?_⟩
    have hb' := (habreast ha hb).1
    rw [lateralNeighbors_eq_ok hb',
      (hrow hb).eq_of_mem hn hm (hrow (self_mem_lanes ha)) (self_mem_lanes hb') hb]

end Mutual

/-- On the loop with two lanes, the left one and the right one have the same list. -/
theorem ring_equivalence : ringNetwork.Accepted ∧ ringNetwork.Mutual ∧
    ringNetwork.isRoad 1 = true ∧ 2 ∈ ringNetwork.lanes 1 ∧ ¬ ringNetwork.Circles (·.left) 1 ∧
    ringNetwork.lateralNeighbors 2 = ringNetwork.lateralNeighbors 1 := by
  have hroad : ringNetwork.isRoad 1 = true := by decide +kernel
  have hbeside : ringNetwork.besideRoad (·.right) 1 = some 2 := by decide +kernel
  have hmem : 2 ∈ ringNetwork.lanes 1 :=
    mem_lanes_of_beside accepted_ring mutual_ring hroad (self_mem_lanes hroad) (Or.inr hbeside)
  have hcircle : ¬ ringNetwork.Circles (·.left) 1 := by
    intro h
    obtain ⟨next, hstep, -⟩ := Relation.TransGen.head'_iff.1 h
    have hnone : ringNetwork.besideRoad (·.left) 1 = none := by decide +kernel
    rw [Steps, hnone] at hstep
    cases hstep
  obtain ⟨hfound, -, -, horder⟩ := lateralNeighbors_equivalence accepted_ring mutual_ring
  obtain ⟨-, hsame⟩ := horder 1 1 hroad (self_mem_lanes hroad) hcircle
  refine ⟨accepted_ring, mutual_ring, hroad, hmem, hcircle, ?_⟩
  rw [hsame 2 hmem, hfound 1 hroad]

end LaneRoute.RoadNetwork
