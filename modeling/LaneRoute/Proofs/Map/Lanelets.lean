import LaneRoute.Proofs.Network.Validation
import LaneRoute.Map.Lanelet

/-!
# Networks of lanelets

Which network lanelets make. Every one of them is either parked on or driven on, and references are
kept when they name one that is driven on. So nothing that a network refuses is left but lanelets
of one id or of no length, and linking adds the links that only the other lanelet has.
-/

set_option autoImplicit false

namespace LaneRoute

variable {α : Type}

namespace Lanelet

def listed (way : Way) (l : Lanelet α) : List Int :=
  match way with
  | .ahead => l.successors
  | .behind => l.predecessors

def driven (lanelets : List (Lanelet α)) : List (Lanelet α) := lanelets.filter fun l => !l.isParking

theorem mem_driven {lanelets : List (Lanelet α)} {l : Lanelet α} :
    l ∈ driven lanelets ↔ l ∈ lanelets ∧ .parking ∉ l.types := by
  simp [driven, isParking]

theorem mem_driven_ids {lanelets : List (Lanelet α)} {id : Int} :
    id ∈ (driven lanelets).map (·.id) ↔ ∃ l ∈ lanelets, l.id = id ∧ .parking ∉ l.types := by
  simp only [List.mem_map, mem_driven]
  constructor
  · rintro ⟨l, ⟨hl, hdriven⟩, hid⟩
    exact ⟨l, hl, hid, hdriven⟩
  · rintro ⟨l, hl, hid, hdriven⟩
    exact ⟨l, ⟨hl, hdriven⟩, hid⟩

theorem named_toSegment (way : Way) (known : List Int) (elevation : α) (l : Lanelet α) :
    (toSegment known elevation l).named way = (l.listed way).filter (· ∈ known) := by
  cases way <;> rfl

theorem neighbor_side {known : List Int} {beside : LaneletSide} {id : Int} :
    (side known beside).neighbor = some id ↔ beside.neighbor = some id ∧ id ∈ known := by
  simp [side, Option.filter_eq_some_iff]

/-! ## Segments -/

theorem segments_eq (lanelets : List (Lanelet α)) (elevation : α) : segments lanelets elevation =
    (driven lanelets).map (toSegment ((driven lanelets).map (·.id)) elevation) := rfl

theorem ids_segments (lanelets : List (Lanelet α)) (elevation : α) :
    (segments lanelets elevation).map (·.id) = (driven lanelets).map (·.id) := by
  rw [segments_eq, List.map_map]
  rfl

theorem mem_of_mem_references {known : List Int} {elevation : α} {l : Lanelet α} {id : Int}
    (h : id ∈ (toSegment known elevation l).references) : id ∈ known := by
  simp only [Segment.references, Segment.neighbors, List.mem_append, Option.mem_toList] at h
  rcases h with (h | h) | h | h
  · exact of_decide_eq_true (List.mem_filter.1 h).2
  · exact of_decide_eq_true (List.mem_filter.1 h).2
  · exact (neighbor_side.1 h).2
  · exact (neighbor_side.1 h).2

theorem nodup_driven_ids {lanelets : List (Lanelet α)} (hids : (lanelets.map (·.id)).Nodup) :
    ((driven lanelets).map (·.id)).Nodup := hids.sublist (List.filter_sublist.map _)

section Ties

open RoadNetwork

variable {lanelets : List (Lanelet α)} {elevation : α}

theorem namedBy_segments (hids : (lanelets.map (·.id)).Nodup) {l : Lanelet α}
    (hl : l ∈ driven lanelets) (way : Way) : namedBy way (segments lanelets elevation) l.id =
      (l.listed way).filter (· ∈ (driven lanelets).map (·.id)) := by
  have hsegments : ((segments lanelets elevation).map (·.id)).Nodup := by
    rw [ids_segments]
    exact nodup_driven_ids hids
  have hmem : toSegment ((driven lanelets).map (·.id)) elevation l ∈ segments lanelets elevation :=
    List.mem_map_of_mem hl
  have hfind : find? l.id (segments lanelets elevation) = _ := find?_of_mem hsegments hmem
  rw [namedBy, hfind]
  exact named_toSegment way _ elevation l

theorem tied_segments_iff (hids : (lanelets.map (·.id)).Nodup) {l : Lanelet α}
    (hl : l ∈ driven lanelets) (way : Way) {b : Int} :
    Tied way (segments lanelets elevation) l.id b ↔ ∃ m ∈ lanelets, m.id = b ∧
      .parking ∉ m.types ∧ (b ∈ l.listed way ∨ l.id ∈ m.listed way.back) := by
  have hknown : l.id ∈ (driven lanelets).map (·.id) := List.mem_map_of_mem hl
  rw [Tied, namedBy_segments hids hl, List.mem_filter, decide_eq_true_iff, mem_driven_ids]
  constructor
  · rintro (⟨hlisted, m, hm, hid, hdriven⟩ | hlisted)
    · exact ⟨m, hm, hid, hdriven, Or.inl hlisted⟩
    · have hb := mem_ids_of_mem_namedBy hlisted
      rw [ids_segments] at hb
      obtain ⟨m, hm, rfl⟩ := List.mem_map.1 hb
      rw [namedBy_segments hids hm] at hlisted
      obtain ⟨hmem, hdriven⟩ := mem_driven.1 hm
      exact ⟨m, hmem, rfl, hdriven, Or.inr (List.mem_filter.1 hlisted).1⟩
  · rintro ⟨m, hm, rfl, hdriven, hlisted | hlisted⟩
    · exact Or.inl ⟨hlisted, m, hm, rfl, hdriven⟩
    · rw [namedBy_segments hids (mem_driven.2 ⟨hm, hdriven⟩)]
      exact Or.inr (List.mem_filter.2 ⟨hlisted, decide_eq_true hknown⟩)

end Ties

variable [Scalar α]

/-! ## What lanelets have to be -/

/-- Both bounds have two points or more, and all points are at numbers. -/
structure Drawn (l : Lanelet α) : Prop where
  left : 2 ≤ l.leftBound.length
  right : 2 ≤ l.rightBound.length
  numbers : ∀ p ∈ l.leftBound ++ l.rightBound, Point.agrees p.place p.place = true

def length (l : Lanelet α) : α := Polyline.planarLength (raised 0 l.center)

theorem planarLengthFrom_raised (s e e' : α) (p : LaneletPoint α) (rest : List (LaneletPoint α)) :
    Polyline.planarLengthFrom s ⟨p.place.x, p.place.y, p.elevation.getD e⟩ (raised e rest) =
      Polyline.planarLengthFrom s ⟨p.place.x, p.place.y, p.elevation.getD e'⟩ (raised e' rest) := by
  induction rest generalizing s p with
  | nil => rfl
  | cons q rest ih => exact ih _ q

theorem length_toSegment (known : List Int) (elevation : α) (l : Lanelet α) :
    (toSegment known elevation l).length = l.length := by
  rw [Segment.length, toSegment, length]
  cases l.center with
  | nil => rfl
  | cons p rest => exact planarLengthFrom_raised 0 elevation 0 p rest

/-! ## Parking lots -/

def outline (l : Lanelet α) : Ring α :=
  Ring.through ((l.leftBound ++ l.rightBound.reverse).map (·.place))

theorem toLot_of_drawn {l : Lanelet α} (h : l.Drawn) : l.toLot = .ok ⟨l.id, l.outline⟩ := by
  have hlength : 3 ≤ (l.leftBound ++ l.rightBound.reverse).length := by
    have hleft := h.left
    have hright := h.right
    simp only [List.length_append, List.length_reverse]
    omega
  have hnumbers : ∀ p ∈ l.leftBound ++ l.rightBound.reverse,
      Point.agrees p.place p.place = true := by
    intro p hp
    refine h.numbers p ?_
    simpa using hp
  rw [toLot, outline]
  match hpoints : l.leftBound ++ l.rightBound.reverse, hlength with
  | p :: _ :: _ :: _, _ =>
    have hstart := hnumbers p (by simp [hpoints])
    simp [Ring.ofPoints, hstart, Except.map]

theorem lots_of_drawn {lanelets : List (Lanelet α)}
    (h : ∀ l ∈ lanelets, .parking ∈ l.types → l.Drawn) :
    lots lanelets = .ok ((lanelets.filter (·.isParking)).map fun l => ⟨l.id, l.outline⟩) := by
  refine Fallible.mapM_eq_ok fun l hl => toLot_of_drawn ?_
  obtain ⟨hmem, hparking⟩ := List.mem_filter.1 hl
  exact h l hmem (by simpa [isParking] using hparking)

/-! ## The network -/

theorem exists_network {lanelets : List (Lanelet α)} (hids : (lanelets.map (·.id)).Nodup)
    (hdrawn : ∀ l ∈ lanelets, .parking ∈ l.types → l.Drawn)
    (hlength : ∀ l ∈ lanelets, .parking ∉ l.types →
      Scalar.isFinite l.length = true ∧ ¬ l.length ≤ 0) (elevation cost : α) :
    ∃ net, network lanelets elevation cost = .ok (.ok net) ∧
      RoadNetwork.build (segments lanelets elevation) []
        ((lanelets.filter (·.isParking)).map fun l => ⟨l.id, l.outline⟩) cost = .ok net := by
  have hcheck : RoadNetwork.check (segments lanelets elevation) = .ok () := by
    apply RoadNetwork.check_of_all
    · rw [ids_segments]
      exact nodup_driven_ids hids
    · intro s hs
      rw [ids_segments]
      obtain ⟨l, hl, rfl⟩ := List.mem_map.1 hs
      obtain ⟨hmem, hdriven⟩ := mem_driven.1 hl
      obtain ⟨hfinite, hpositive⟩ := hlength l hmem hdriven
      rw [RoadNetwork.checkSegment_eq_ok_iff, length_toSegment]
      exact ⟨hfinite, hpositive, fun id hid => mem_of_mem_references hid⟩
  refine ⟨_, ?_, Fallible.bind_eq_ok.2 ⟨(), hcheck, rfl⟩⟩
  rw [network, lots_of_drawn hdrawn]
  exact congrArg Except.ok (Fallible.bind_eq_ok.2 ⟨(), hcheck, rfl⟩)

section Built

open RoadNetwork

variable {lanelets : List (Lanelet α)} {elevation cost : α} {lots : List (ParkingLot α)}
  {net : RoadNetwork α}

theorem exists_converted (hids : (lanelets.map (·.id)).Nodup)
    (hbuild : build (segments lanelets elevation) [] lots cost = .ok net) {l : Lanelet α}
    (hl : l ∈ driven lanelets) :
    ∃ s, net.segment? l.id = some s ∧
      s.bare = (toSegment ((driven lanelets).map (·.id)) elevation l).bare ∧
      ∀ way b, b ∈ s.named way ↔ ∃ m ∈ lanelets, m.id = b ∧ .parking ∉ m.types ∧
        (b ∈ l.listed way ∨ l.id ∈ m.listed way.back) := by
  have ha : net.Accepted := ⟨_, _, _, _, hbuild⟩
  have hgiven : toSegment ((driven lanelets).map (·.id)) elevation l ∈
      segments lanelets elevation := List.mem_map_of_mem hl
  obtain ⟨s, hs, hbare⟩ := exists_linked hbuild hgiven
  have hid : l.id = s.id := Segment.id_eq_of_bare hbare
  obtain ⟨hcheck, hnamed⟩ := namedBy_build hbuild
  refine ⟨s, hid ▸ find?_of_mem ha.nodup_ids hs, hbare.symm, fun way b => ?_⟩
  rw [named_eq_namedBy hbuild way hs, hnamed, mem_namedBy_link (known_of_checked hcheck), ← hid]
  exact tied_segments_iff hids hl way

end Built

/-- Lanelets of different ids, those that are driven on of some finite length, make a network if
those that are parked on are drawn as lanelets have to be.
Each of them becomes either a parking lot or a segment, of its id. A segment leads to the segments
of those lanelets that its own one lists as successors or that list that one as predecessor, and
follows on those that are listed the other way around. It lies beside the segments of the lanelets
that its own one names, and beside nothing else. -/
theorem network_converts {lanelets : List (Lanelet α)} (hids : (lanelets.map (·.id)).Nodup)
    (hdrawn : ∀ l ∈ lanelets, .parking ∈ l.types → l.Drawn)
    (hlength : ∀ l ∈ lanelets, .parking ∉ l.types →
      Scalar.isFinite l.length = true ∧ ¬ l.length ≤ 0) (elevation cost : α) :
    ∃ net, network lanelets elevation cost = .ok (.ok net) ∧
      (net.parkingLots.map (·.id) ++ net.ids).Perm (lanelets.map (·.id)) ∧
      (∀ l ∈ lanelets, (l.id ∈ net.parkingLots.map (·.id) ↔ .parking ∈ l.types) ∧
        (l.id ∈ net.ids ↔ .parking ∉ l.types)) ∧
      ∀ l ∈ lanelets, .parking ∉ l.types → ∃ s, net.segment? l.id = some s ∧
        (∀ b, b ∈ s.successors ↔ ∃ m ∈ lanelets, m.id = b ∧ .parking ∉ m.types ∧
          (b ∈ l.successors ∨ l.id ∈ m.predecessors)) ∧
        (∀ b, b ∈ s.predecessors ↔ ∃ m ∈ lanelets, m.id = b ∧ .parking ∉ m.types ∧
          (b ∈ l.predecessors ∨ l.id ∈ m.successors)) ∧
        (∀ b, s.left.neighbor = some b ↔ l.left.neighbor = some b ∧
          ∃ m ∈ lanelets, m.id = b ∧ .parking ∉ m.types) ∧
        ∀ b, s.right.neighbor = some b ↔ l.right.neighbor = some b ∧
          ∃ m ∈ lanelets, m.id = b ∧ .parking ∉ m.types := by
  obtain ⟨net, hnetwork, hbuild⟩ := exists_network hids hdrawn hlength elevation cost
  have hlots : net.parkingLots.map (·.id) = (lanelets.filter (·.isParking)).map (·.id) := by
    rw [RoadNetwork.parkingLots_of_build hbuild, List.map_map]
    rfl
  have hsegments : net.ids.Perm ((driven lanelets).map (·.id)) := by
    rw [← ids_segments lanelets elevation, ← RoadNetwork.ids_link]
    exact (RoadNetwork.perm_of_build hbuild).1.map _
  refine ⟨net, hnetwork, ?each, ?which, ?converted⟩
  case each =>
    rw [hlots]
    refine (hsegments.append_left _).trans ?_
    rw [← List.map_append]
    exact (List.filter_append_perm _ _).map _
  case which =>
    intro l hl
    have hunique : ∀ {p : Lanelet α → Bool},
        l.id ∈ (lanelets.filter p).map (·.id) ↔ p l = true := by
      intro p
      constructor
      · intro hmem
        obtain ⟨m, hm, hid⟩ := List.mem_map.1 hmem
        obtain ⟨hm, hp⟩ := List.mem_filter.1 hm
        exact List.inj_on_of_nodup_map hids hm hl hid ▸ hp
      · exact fun hp => List.mem_map_of_mem (List.mem_filter.2 ⟨hl, hp⟩)
    rw [hlots, hsegments.mem_iff, hunique, driven, hunique]
    simp [isParking]
  case converted =>
    intro l hl hdriven
    obtain ⟨s, hs, hbare, hnamed⟩ := exists_converted hids hbuild (mem_driven.2 ⟨hl, hdriven⟩)
    have hleft := Segment.eq_of_bare (·.left) (fun _ => rfl) hbare
    have hright := Segment.eq_of_bare (·.right) (fun _ => rfl) hbare
    refine ⟨s, hs, hnamed .ahead, hnamed .behind, fun b => ?_, fun b => ?_⟩
    · rw [hleft, ← mem_driven_ids]
      exact neighbor_side
    · rw [hright, ← mem_driven_ids]
      exact neighbor_side

/-! ## A road with a siding -/

def straightLane (id : Int) (successors predecessors : List Int) (left right : Option Int)
    (types : List LaneletType) : Lanelet Rat where
  id := id
  leftBound := [⟨⟨0, 2⟩, none⟩, ⟨⟨10, 2⟩, none⟩]
  rightBound := [⟨⟨0, -2⟩, none⟩, ⟨⟨10, -2⟩, none⟩]
  center := [⟨⟨0, 0⟩, none⟩, ⟨⟨10, 0⟩, none⟩]
  successors := successors
  predecessors := predecessors
  left := ⟨left, true, .other⟩
  right := ⟨right, true, .other⟩
  types := types

def siding : List (Lanelet Rat) :=
  [straightLane 1 [2, 4, 9] [] (some 4) (some 3) [], straightLane 2 [] [9] none none [.restricted],
    straightLane 3 [4] [1] (some 1) (some 9) [.shoulder],
    straightLane 4 [1] [1] (some 1) none [.parking]]

/-- Of what is named only segments stay, and the one that names the first lanelet is added. -/
theorem siding_converts : (siding.map (·.id)).Nodup ∧
    (∀ l ∈ siding, .parking ∈ l.types → l.Drawn) ∧
    (∀ l ∈ siding, .parking ∉ l.types → Scalar.isFinite l.length = true ∧ ¬ l.length ≤ 0) ∧
    ∃ net s, network siding 0 2 = .ok (.ok net) ∧ net.segment? 1 = some s ∧
      (∀ b, b ∈ s.successors ↔ b = 2 ∨ b = 3) ∧ (∀ b, b ∉ s.predecessors) ∧
      (∀ b, s.left.neighbor ≠ some b) ∧ s.right.neighbor = some 3 := by
  have hids : (siding.map (·.id)).Nodup := by decide
  have hleft : ∀ l ∈ siding, 2 ≤ l.leftBound.length := by decide
  have hright : ∀ l ∈ siding, 2 ≤ l.rightBound.length := by decide
  have hnumbers : ∀ l ∈ siding, ∀ p ∈ l.leftBound ++ l.rightBound,
      Point.agrees p.place p.place = true := by decide +kernel
  have hlength : ∀ l ∈ siding, .parking ∉ l.types →
      Scalar.isFinite l.length = true ∧ ¬ l.length ≤ 0 := by decide +kernel
  have hdrawn : ∀ l ∈ siding, .parking ∈ l.types → l.Drawn :=
    fun l hl _ => ⟨hleft l hl, hright l hl, hnumbers l hl⟩
  obtain ⟨net, hnetwork, -, -, hconverted⟩ := network_converts hids hdrawn hlength 0 2
  obtain ⟨s, hs, hahead, hbehind, hbeside, hright⟩ :=
    hconverted (straightLane 1 [2, 4, 9] [] (some 4) (some 3) []) (by simp [siding]) (by decide)
  refine ⟨hids, hdrawn, hlength, net, s, hnetwork, hs, fun b => ?_, fun b => ?_, fun b => ?_, ?_⟩
  · rw [hahead]
    constructor
    · rintro ⟨m, hm, rfl, hdriven, hlisted⟩
      revert m
      decide
    · rintro (rfl | rfl) <;> decide
  · rw [hbehind]
    rintro ⟨m, hm, rfl, hdriven, hlisted⟩
    revert m
    decide
  · rw [Ne, hbeside]
    rintro ⟨hnamed, m, hm, rfl, hdriven⟩
    revert m
    decide
  · rw [hright]
    decide

end Lanelet

end LaneRoute
