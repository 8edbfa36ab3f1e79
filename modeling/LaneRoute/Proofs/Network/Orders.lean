import LaneRoute.Goal.Footprint
import LaneRoute.Proofs.Network.Acceptance

/-!
# Orders of successors

Networks that are alike but for the order in which their segments name their successors. The
same roads come after a segment in both, in chains of the same lanes with the same shoulders
beside them.
-/

set_option autoImplicit false

namespace LaneRoute.RoadNetwork

variable {α : Type}

def Precedes (net : RoadNetwork α) (s t : Segment α) : Prop := t ∈ net.roadsAmong s.successors

theorem segment?_of_precedes {net : RoadNetwork α} {s t : Segment α} (h : net.Precedes s t) :
    net.segment? t.id = some t := by
  obtain ⟨id, -, ht⟩ := List.mem_filterMap.1 (List.mem_filter.1 h).1
  have hid : t.id = id := by simpa using List.find?_some ht
  rw [hid, ht]

theorem mem_segments_of_precedes {net : RoadNetwork α} {s t : Segment α} (h : net.Precedes s t) :
    t ∈ net.segments := List.mem_of_find?_eq_some (segment?_of_precedes h)

def core (s : Segment α) : Segment α := { s.bare with spelling := {} }

/-- Two segments that are alike but for the order of their successors. -/
def Alike (s t : Segment α) : Prop := core s = core t ∧ s.successors.Perm t.successors

def Reorders (net other : RoadNetwork α) : Prop := List.Forall₂ Alike net.segments other.segments

theorem Alike.symm {s t : Segment α} (h : Alike s t) : Alike t s := ⟨h.1.symm, h.2.symm⟩

theorem Reorders.symm {net other : RoadNetwork α} (h : net.Reorders other) :
    other.Reorders net := by
  apply List.Forall₂.flip
  exact h.imp fun s t hst => hst.symm

theorem map_core {ss ts : List (Segment α)} (h : List.Forall₂ Alike ss ts) :
    ss.map core = ts.map core := by
  induction h with
  | nil => rfl
  | cons hst _ ih => rw [List.map_cons, List.map_cons, hst.1, ih]

theorem id_eq_of_core_eq {s t : Segment α} (h : core s = core t) : s.id = t.id :=
  congrArg (·.id) h

theorem find?_alike {ss ts : List (Segment α)} (h : List.Forall₂ Alike ss ts) {id : Int}
    {s : Segment α} (hs : find? id ss = some s) : ∃ t, find? id ts = some t ∧ Alike s t := by
  induction h with
  | nil => simp [find?] at hs
  | @cons a b ss ts hab _ ih =>
    rw [find?, List.find?_cons] at hs ⊢
    rw [← id_eq_of_core_eq hab.1]
    by_cases hid : a.id = id
    · rw [decide_eq_true hid] at hs ⊢
      obtain rfl := Option.some.inj hs
      exact ⟨b, rfl, hab⟩
    · rw [decide_eq_false hid] at hs ⊢
      exact ih hs

theorem Reorders.precedes {net other : RoadNetwork α} (h : net.Reorders other) {s t a : Segment α}
    (hst : Alike s t) (ha : net.Precedes s a) : ∃ b, other.Precedes t b ∧ Alike a b := by
  obtain ⟨hamong, hroad⟩ := List.mem_filter.1 ha
  obtain ⟨id, hid, hfind⟩ := List.mem_filterMap.1 hamong
  obtain ⟨b, hb, hab⟩ := find?_alike h hfind
  have hkind := congrArg Segment.isRoad hab.1
  change a.isRoad = b.isRoad at hkind
  have hmem : b ∈ t.successors.filterMap other.segment? :=
    List.mem_filterMap.2 ⟨id, hst.2.subset hid, hb⟩
  exact ⟨b, List.mem_filter.2 ⟨hmem, hkind ▸ hroad⟩, hab⟩

theorem Reorders.chain {net other : RoadNetwork α} (h : net.Reorders other)
    {ss : List (Segment α)} {s t : Segment α} (hst : Alike s t)
    (hlinked : (s :: ss).IsChain net.Precedes) :
    ∃ ts, (t :: ts).IsChain other.Precedes ∧ List.Forall₂ Alike ss ts := by
  induction ss generalizing s t with
  | nil => exact ⟨[], List.IsChain.singleton t, List.Forall₂.nil⟩
  | cons a ss ih =>
    obtain ⟨hprecedes, hlinked⟩ := List.isChain_cons_cons.1 hlinked
    obtain ⟨b, hb, hab⟩ := h.precedes hst hprecedes
    obtain ⟨ts, hchain, hts⟩ := ih hab hlinked
    exact ⟨b :: ts, List.isChain_cons_cons.2 ⟨hb, hchain⟩, List.Forall₂.cons hab hts⟩

def cores [Zero α] (net : RoadNetwork α) : RoadNetwork α := ⟨net.segments.map core, [], [], 0⟩

theorem segment?_cores [Zero α] (net : RoadNetwork α) (id : Int) :
    net.cores.segment? id = (net.segment? id).map core := by
  simp only [segment?, find?, cores, List.find?_map]
  rfl

theorem shoulders_cores [Zero α] (net : RoadNetwork α) :
    net.cores.shoulders = net.shoulders.map core := by
  simp only [shoulders, cores, List.filter_map]
  rfl

theorem adjacentShoulders_cores [Zero α] (net : RoadNetwork α) (id : Int) :
    net.cores.adjacentShoulders id = (net.adjacentShoulders id).map core := by
  unfold adjacentShoulders
  rw [segment?_cores]
  cases net.segment? id with
  | none => rfl
  | some s =>
    have hlookup : net.cores.segment? = fun n => (net.segment? n).map core :=
      funext (segment?_cores net)
    have hshoulder : net.cores.isShoulder = net.isShoulder := by
      funext n
      simp only [isShoulder, hlookup, Option.any_map]
      rfl
    simp only [Option.map_some, shoulders_cores, List.filter_map, List.map_append, List.map_map,
      List.map_filterMap, hshoulder, hlookup]
    rfl

section Lanes

variable [Scalar α] {net other : RoadNetwork α}

theorem Reorders.cores_eq (h : net.Reorders other) : net.cores = other.cores :=
  congrArg (fun segments => RoadNetwork.mk segments [] [] (0 : α)) (map_core h)

theorem Reorders.outlines (h : net.Reorders other) (id : Int) :
    (net.adjacentShoulders id).map (·.outline) = (other.adjacentShoulders id).map (·.outline) := by
  have hcores := congrArg (fun n => (adjacentShoulders n id).map (·.outline)) h.cores_eq
  simp only [adjacentShoulders_cores, List.map_map] at hcores
  exact hcores

theorem length_eq_of_alike {ss ts : List (Segment α)} (h : List.Forall₂ Alike ss ts) :
    ss.map (·.length) = ts.map (·.length) := by
  have hlengths := congrArg (List.map (·.length)) (map_core h)
  rw [List.map_map, List.map_map] at hlengths
  exact hlengths

end Lanes

section Shoulders

variable [Planar α] {net other : RoadNetwork α}

theorem Reorders.withShoulders_eq (h : net.Reorders other) {s t : Segment α} (hst : Alike s t) :
    net.withShoulders s = other.withShoulders t := by
  have houtline := congrArg Segment.outline hst.1
  change s.outline = t.outline at houtline
  rw [withShoulders, withShoulders, houtline, id_eq_of_core_eq hst.1, h.outlines]

theorem Reorders.flatMap_withShoulders (h : net.Reorders other) {ss ts : List (Segment α)}
    (hst : List.Forall₂ Alike ss ts) :
    ss.flatMap net.withShoulders = ts.flatMap other.withShoulders := by
  induction hst with
  | nil => rfl
  | cons hst _ ih => rw [List.flatMap_cons, List.flatMap_cons, h.withShoulders_eq hst, ih]

end Shoulders

end LaneRoute.RoadNetwork
