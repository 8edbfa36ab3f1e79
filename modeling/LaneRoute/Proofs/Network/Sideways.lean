import LaneRoute.Proofs.Network.Lookups
import LaneRoute.Proofs.Network.Rows

/-!
# Loops to the sides

The walk to one side as the loop that it is. A turn looks up the next lane and takes it up unless
it was met before, whatever the references are like: they may lead into a circle without the lane
that the walk began at. What runs out are the roads that are not met yet. When the loop ends, it has
met the lanes that the links to the side lead to, and there is only one list of them.
-/

set_option autoImplicit false

namespace LaneRoute.RoadNetwork

variable {α : Type} {net : RoadNetwork α} {side : Segment α → Side} {id : Int}

/-! ## Links to the side -/

/-- A segment names a lane beside it, of its own direction, and that lane is a road. -/
def Flanks (net : RoadNetwork α) (side : Segment α → Side) (id next : Int) : Prop :=
  ∃ s, net.segment? id = some s ∧ (side s).neighbor = some next ∧
    (side s).sameDirection.isSet = true ∧ net.isRoad next = true

/-- The lanes that the links to one side lead to from a segment, the nearest first, up to a link
that is missing, oncoming, to no road or to a lane visited already. -/
structure Meets (net : RoadNetwork α) (side : Segment α → Side) (visited : List Int) (id : Int)
    (lanes : List Int) : Prop where
  linked : (id :: lanes).IsChain (net.Flanks side)
  nodup : lanes.Nodup
  fresh : ∀ lane ∈ lanes, lane ∉ visited
  stops : ∀ last ∈ (id :: lanes).getLast?, ∀ next, net.Flanks side last next →
    next ∈ visited ∨ next ∈ lanes

theorem Flanks.unique {a b c : Int} (hb : net.Flanks side a b) (hc : net.Flanks side a c) :
    b = c :=
  Steps.unique (besideRoad_eq_some.2 hb) (besideRoad_eq_some.2 hc)

theorem isRoad_of_isChain {lane : Int} {lanes : List Int}
    (h : (id :: lanes).IsChain (net.Flanks side)) (hlane : lane ∈ lanes) :
    net.isRoad lane = true := by
  induction lanes generalizing id with
  | nil => cases hlane
  | cons next lanes ih =>
    obtain ⟨⟨s, -, -, -, hroad⟩, hrest⟩ := List.isChain_cons_cons.1 h
    rcases List.mem_cons.1 hlane with rfl | hlane
    · exact hroad
    · exact ih hrest hlane

namespace Meets

variable {visited : List Int} {next : Int} {lanes others : List Int}

theorem tail (h : net.Meets side visited id (next :: lanes)) :
    net.Meets side (next :: visited) next lanes := by
  obtain ⟨hnext, hnodup⟩ := List.nodup_cons.1 h.nodup
  refine ⟨h.linked.tail, hnodup, fun lane hlane hvisited => ?_, fun last hlast other hother => ?_⟩
  · rcases List.mem_cons.1 hvisited with rfl | hvisited
    · exact hnext hlane
    · exact h.fresh lane (List.mem_cons_of_mem next hlane) hvisited
  · have hstop := h.stops last (by rwa [List.getLast?_cons_cons]) other hother
    grind

theorem false_of_nil_of_cons (h : net.Meets side visited id [])
    (h' : net.Meets side visited id (next :: lanes)) : False := by
  have hnext := h'.fresh next List.mem_cons_self
  rcases h.stops id rfl next (List.isChain_cons_cons.1 h'.linked).1 with hvisited | hmem
  · exact hnext hvisited
  · cases hmem

theorem unique (h : net.Meets side visited id lanes) (h' : net.Meets side visited id others) :
    lanes = others := by
  induction lanes generalizing visited id others with
  | nil =>
    cases others with
    | nil => rfl
    | cons next others => exact (h.false_of_nil_of_cons h').elim
  | cons first lanes ih =>
    cases others with
    | nil => exact (h'.false_of_nil_of_cons h).elim
    | cons next others =>
      obtain rfl : first = next :=
        (List.isChain_cons_cons.1 h.linked).1.unique (List.isChain_cons_cons.1 h'.linked).1
      rw [ih h.tail h'.tail]

end Meets

theorem meets_lanesBeside (net : RoadNetwork α) (side : Segment α → Side) (visited : List Int)
    (id : Int) : net.Meets side visited id (net.lanesBeside side visited id) where
  linked := isChain_lanesBeside.imp fun _ _ => besideRoad_eq_some.1
  nodup := nodup_lanesBeside net side visited id
  fresh _ := not_mem_of_mem_lanesBeside
  stops _ hlast _ hnext :=
    visited_or_mem_of_step (List.mem_of_mem_getLast? hlast) (besideRoad_eq_some.2 hnext)

/-! ## The loop -/

/-- Where the loop stands: the lanes met so far, and the segment that it has come to. -/
structure SideLoop (α : Type) where
  met : List Int
  current : Segment α

namespace SideLoop

def turn (net : RoadNetwork α) (side : Segment α → Side) (id : Int) (loop : SideLoop α) :
    Except Fault (Option (SideLoop α)) := do
  match ← net.seekBeside (side loop.current).sameDirection.isSet (side loop.current) with
  | none => return none
  | some next =>
    if next ∈ loop.met ++ [id] then return none
    else return some ⟨loop.met ++ [next], ← net.segment next⟩

/-- The lanes or the fault that the loop ends with, if it ends within some turns. -/
def lanes? (net : RoadNetwork α) (side : Segment α → Side) (id : Int) :
    Nat → SideLoop α → Option (Except Fault (List Int))
  | 0, _ => none
  | turns + 1, loop =>
    match loop.turn net side id with
    | .error fault => some (.error fault)
    | .ok none => some (.ok loop.met)
    | .ok (some next) => lanes? net side id turns next

/-- The lanes met so far are linked one to the next, each is met once, and the loop stands at the
last of them. -/
structure Underway (net : RoadNetwork α) (side : Segment α → Side) (id : Int)
    (loop : SideLoop α) : Prop where
  linked : (id :: loop.met).IsChain (net.Flanks side)
  nodup : loop.met.Nodup
  fresh : id ∉ loop.met
  current : ∃ last ∈ (id :: loop.met).getLast?, net.segment? last = some loop.current

/-- A turn ends the loop where no link leads to a lane that is new, and otherwise takes up the
lane that the link leads to. -/
theorem turn_cases (id : Int) {loop : SideLoop α} {last : Int}
    (hknown : ∀ s ∈ net.segments, ∀ id ∈ (side s).neighbor, id ∈ net.ids)
    (hlast : net.segment? last = some loop.current) :
    (loop.turn net side id = .ok none ∧
      ∀ next, net.Flanks side last next → next ∈ loop.met ++ [id]) ∨
    ∃ next s, loop.turn net side id = .ok (some ⟨loop.met ++ [next], s⟩) ∧
      net.Flanks side last next ∧ next ∉ loop.met ++ [id] ∧ net.segment? next = some s := by
  have hseek : net.seekBeside (side loop.current).sameDirection.isSet (side loop.current) =
      .ok (net.besideRoad side last) := by
    rw [seekBeside_eq _ (hknown _ (List.mem_of_find?_eq_some hlast)), besideRoad_eq hlast]
  cases hbeside : net.besideRoad side last with
  | none =>
    left
    constructor
    · rw [turn, hseek, hbeside]
      rfl
    · intro next hnext
      rw [besideRoad_eq_some.2 hnext] at hbeside
      cases hbeside
  | some next =>
    have hflanks : net.Flanks side last next := besideRoad_eq_some.1 hbeside
    obtain ⟨s, hs⟩ := mem_ids_iff.1 (mem_ids_of_besideRoad hbeside)
    by_cases hseen : next ∈ loop.met ++ [id]
    · left
      constructor
      · rw [turn, hseek, hbeside]
        exact if_pos hseen
      · exact fun other hother => hflanks.unique hother ▸ hseen
    · right
      refine ⟨next, s, ?_, hflanks, hseen, hs⟩
      rw [turn, hseek, hbeside]
      refine (if_neg hseen).trans ?_
      rw [segment_eq_ok.2 hs]
      rfl

namespace Underway

variable {loop : SideLoop α} {last next : Int} {s : Segment α}

theorem start (hs : net.segment? id = some s) : Underway net side id ⟨[], s⟩ :=
  ⟨.singleton id, List.nodup_nil, List.not_mem_nil, id, rfl, hs⟩

theorem extend (h : Underway net side id loop) (hlast : last ∈ (id :: loop.met).getLast?)
    (hnext : net.Flanks side last next) (hnew : next ∉ loop.met ++ [id])
    (hs : net.segment? next = some s) : Underway net side id ⟨loop.met ++ [next], s⟩ := by
  simp only [List.mem_append, List.mem_singleton, not_or] at hnew
  refine ⟨?linked, ?nodup, ?fresh, next, ?current, hs⟩
  case linked =>
    rw [← List.cons_append]
    refine h.linked.append (.singleton next) fun a ha b hb => ?_
    obtain rfl := Option.some.inj (hlast.symm.trans ha)
    obtain rfl := Option.some.inj hb
    exact hnext
  case nodup =>
    rw [← List.concat_eq_append]
    exact h.nodup.concat hnew.1
  case fresh => simpa [h.fresh] using Ne.symm hnew.2
  case current =>
    rw [← List.cons_append]
    exact List.getLast?_concat

theorem meets (h : Underway net side id loop) (hlast : last ∈ (id :: loop.met).getLast?)
    (hstop : ∀ next, net.Flanks side last next → next ∈ loop.met ++ [id]) :
    net.Meets side [id] id loop.met := by
  refine ⟨h.linked, h.nodup, fun lane hlane hid => ?_, fun a ha next hnext => ?_⟩
  · exact h.fresh (List.mem_singleton.1 hid ▸ hlane)
  · obtain rfl := Option.some.inj (hlast.symm.trans ha)
    exact (List.mem_append.1 (hstop next hnext)).symm

theorem length_le [Scalar α] (hn : net.Accepted) (h : Underway net side id loop) :
    loop.met.length ≤ net.roads.length := by
  have hroads : loop.met ⊆ net.roads.map (·.id) := by
    intro lane hlane
    exact List.mem_map.2 (hn.isRoad_iff.1 (isRoad_of_isChain h.linked hlane))
  have hlength := (List.subperm_of_subset h.nodup hroads).length_le
  rwa [List.length_map] at hlength

theorem exists_lanes [Scalar α] (hn : net.Accepted)
    (hknown : ∀ s ∈ net.segments, ∀ id ∈ (side s).neighbor, id ∈ net.ids) (turns : Nat)
    (h : Underway net side id loop) (hturns : net.roads.length < loop.met.length + turns) :
    ∃ lanes, loop.lanes? net side id turns = some (.ok lanes) ∧
      net.Meets side [id] id lanes := by
  induction turns generalizing loop with
  | zero => exact absurd (h.length_le hn) (by omega)
  | succ turns ih =>
    obtain ⟨last, hlast, hcurrent⟩ := h.current
    rcases turn_cases id hknown hcurrent with
      ⟨hturn, hstop⟩ | ⟨next, s, hturn, hnext, hnew, hs⟩
    · refine ⟨loop.met, ?_, h.meets hlast hstop⟩
      rw [lanes?, hturn]
    · obtain ⟨lanes, hlanes, hmeets⟩ :=
        ih (h.extend hlast hnext hnew hs) (by simp; omega)
      refine ⟨lanes, ?_, hmeets⟩
      rw [lanes?, hturn]
      exact hlanes

end Underway

end SideLoop

theorem Accepted.closed [Scalar α] (hn : net.Accepted) : net.Closed := by
  obtain ⟨segments, spaces, lots, cost, h⟩ := hn
  exact closed_of_build h

/-- From a known segment the loops to both sides end, and no lookup fails. The lanes that they
have met are the lists of those that the links lead to, and what the segment has beside it are these
on the left, the farthest first, the segment, and those on the right that are not on the left. So
no lane is listed twice, and besides the segment only roads are. -/
theorem lateralNeighbors_walks [Scalar α] (hn : net.Accepted) (hid : id ∈ net.ids) :
    ∃ s left right lanes, net.segment id = .ok s ∧
      SideLoop.lanes? net (·.left) id (net.roads.length + 1) ⟨[], s⟩ = some (.ok left) ∧
      SideLoop.lanes? net (·.right) id (net.roads.length + 1) ⟨[], s⟩ = some (.ok right) ∧
      (∀ met, net.Meets (·.left) [id] id met ↔ met = left) ∧
      (∀ met, net.Meets (·.right) [id] id met ↔ met = right) ∧
      net.lateralNeighbors id = .ok lanes ∧
      lanes = left.reverse ++ id :: right.filter (· ∉ left) ∧
      lanes.Nodup ∧ id ∈ lanes ∧ ∀ lane ∈ lanes, lane ≠ id → net.isRoad lane = true := by
  obtain ⟨s, hs⟩ := mem_ids_iff.1 hid
  have hloop : ∀ side : Segment α → Side,
      (∀ s ∈ net.segments, ∀ id ∈ (side s).neighbor, id ∈ net.ids) →
      SideLoop.lanes? net side id (net.roads.length + 1) ⟨[], s⟩ =
        some (.ok (net.lanesBeside side [id] id)) := by
    intro side hknown
    obtain ⟨lanes, hlanes, hmeets⟩ :=
      (SideLoop.Underway.start hs).exists_lanes hn hknown (net.roads.length + 1) (by simp)
    rw [hlanes, hmeets.unique (meets_lanesBeside net side [id] id)]
  have hmeets : ∀ side met, net.Meets side [id] id met ↔ met = net.lanesBeside side [id] id :=
    fun side met => ⟨fun h => h.unique (meets_lanesBeside net side [id] id),
      fun h => h ▸ meets_lanesBeside net side [id] id⟩
  have hlanes : net.lateralNeighbors id = .ok _ :=
    Fallible.map_eq_ok.2 ⟨s, segment_eq_ok.2 hs, rfl⟩
  refine ⟨s, _, _, _, segment_eq_ok.2 hs, hloop _ hn.closed.left, hloop _ hn.closed.right,
    hmeets _, hmeets _, hlanes, rfl, nodup_lateralNeighbors hlanes, by simp, ?roads⟩
  case roads =>
    intro lane hlane hother
    simp only [List.mem_append, List.mem_reverse, List.mem_cons, List.mem_filter] at hlane
    rcases hlane with hleft | rfl | ⟨hright, -⟩
    · exact isRoad_of_mem_lanesBeside hleft
    · exact absurd rfl hother
    · exact isRoad_of_mem_lanesBeside hright

/-! ## Tangled references -/

/-- Four roads and a shoulder. On the left of the first one two roads name each other, and one of
them is also on its right. -/
def tangledRoads : List (Segment Rat) :=
  let road (id : Int) (left right : Option Int) : Segment Rat :=
    { plainRoad id [⟨0, 4, 0⟩, ⟨40, 4, 0⟩] [⟨0, 0, 0⟩, ⟨40, 0, 0⟩] [] with
      left := ⟨left, .ofBool true, .ofBool false⟩
      right := ⟨right, .ofBool true, .ofBool false⟩ }
  [road 1 (some 2) (some 3), road 2 (some 3) none, road 3 (some 2) (some 4),
   road 4 (some 4) (some 5), { road 5 none (some 1) with kind := .shoulder }]

def tangledNetwork : RoadNetwork Rat := ⟨link tangledRoads, [], [], 2⟩

theorem accepted_tangled : tangledNetwork.Accepted := by
  have hcheck : (check tangledRoads).isOk := by decide +kernel
  have hids : (tangledRoads.map (·.id)).Pairwise (· ≤ ·) := by simp [tangledRoads, plainRoad]
  exact accepted_of_ascending hcheck hids [] [] 2

/-- From the first road the loop to the left comes into a circle without that road, and the one to
the right passes a lane that is on the left, too. -/
theorem tangled_walks : tangledNetwork.Accepted ∧ 1 ∈ tangledNetwork.ids ∧
    tangledNetwork.lateralNeighbors 1 = .ok [3, 2, 1, 4] ∧ ([3, 2, 1, 4] : List Int).Nodup ∧
    (∀ met, tangledNetwork.Meets (·.left) [1] 1 met ↔ met = [2, 3]) ∧
    ∀ met, tangledNetwork.Meets (·.right) [1] 1 met ↔ met = [3, 4] := by
  have hid : 1 ∈ tangledNetwork.ids := by decide +kernel
  have hroads : tangledNetwork.roads.length = 4 := by decide +kernel
  have hmet : ((tangledNetwork.segment? 1).map fun s =>
      ((SideLoop.lanes? tangledNetwork (·.left) 1 5 ⟨[], s⟩).bind (·.toOption),
        (SideLoop.lanes? tangledNetwork (·.right) 1 5 ⟨[], s⟩).bind (·.toOption))) =
      some (some [2, 3], some [3, 4]) := by decide +kernel
  obtain ⟨s, left, right, lanes, hs, hleft, hright, hmeetsleft, hmeetsright, hlanes, hlist, hnodup,
    -⟩ := lateralNeighbors_walks accepted_tangled hid
  rw [hroads] at hleft hright
  rw [segment_eq_ok.1 hs, Option.map_some, hleft, hright] at hmet
  obtain ⟨hl, hr⟩ := Prod.mk.inj (Option.some.inj hmet)
  obtain rfl : left = [2, 3] := Option.some.inj hl
  obtain rfl : right = [3, 4] := Option.some.inj hr
  obtain rfl : lanes = [3, 2, 1, 4] := hlist
  exact ⟨accepted_tangled, hid, hlanes, hnodup, hmeetsleft, hmeetsright⟩

end LaneRoute.RoadNetwork
