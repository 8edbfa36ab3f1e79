import LaneRoute.Proofs.Network.Shoulders

/-!
# Construction in place

A network is built from segments that are linked where they stand, so that a construction which
fails halfway could leave some of them changed. None does: the segments are checked before the
first of them is written, and after the check no lookup fails, neither while they are linked
nor while the shoulders and the routing graph are put down from what is linked by then.
-/

set_option autoImplicit false

namespace LaneRoute

variable {α β γ : Type}

/-- Steps that look at segments and change them in place, until the segments are refused or a
lookup fails. -/
abbrev InPlace (α : Type) := ExceptT (NetworkFault α ⊕ Fault) (StateM (List (Segment α)))

namespace InPlace

def perform (steps : InPlace α β) (segments : List (Segment α)) :
    Except (NetworkFault α ⊕ Fault) β × List (Segment α) := (steps.run.run segments).run

def settle {ε : Type} (wrap : ε → NetworkFault α ⊕ Fault) (x : Except ε β) : InPlace α β :=
  ExceptT.mk (pure (x.mapError wrap))

def seek (id : Int) : InPlace α (Segment α) := do
  match RoadNetwork.find? id (← get) with
  | some s => return s
  | none => throw (.inr .unknown)

variable {segments : List (Segment α)}

theorem perform_bind (steps : InPlace α β) (next : β → InPlace α γ) :
    (steps >>= next).perform segments =
      match steps.perform segments with
      | (.error fault, kept) => (.error fault, kept)
      | (.ok b, kept) => (next b).perform kept := by
  have hrun : (steps >>= next).perform segments =
      (ExceptT.bindCont next (steps.perform segments).1).run (steps.perform segments).2 := rfl
  rw [hrun]
  rcases steps.perform segments with ⟨fault | b, kept⟩
  · rfl
  · rfl

theorem perform_bind_of_ok {steps : InPlace α β} {next : β → InPlace α γ} {b : β}
    {kept : List (Segment α)} (h : steps.perform segments = (.ok b, kept)) :
    (steps >>= next).perform segments = (next b).perform kept := by
  rw [perform_bind, h]

theorem perform_bind_of_error {steps : InPlace α β} {next : β → InPlace α γ}
    {fault : NetworkFault α ⊕ Fault} {kept : List (Segment α)}
    (h : steps.perform segments = (.error fault, kept)) :
    (steps >>= next).perform segments = (.error fault, kept) := by
  rw [perform_bind, h]

theorem perform_settle {ε : Type} {wrap : ε → NetworkFault α ⊕ Fault} {x : Except ε β} {b : β}
    (h : x = .ok b) : (settle wrap x).perform segments = (.ok b, segments) := by
  rw [h]
  rfl

theorem perform_seek {id : Int} {s : Segment α} (hs : RoadNetwork.find? id segments = some s) :
    (seek id).perform segments = (.ok s, segments) := by
  refine (perform_bind_of_ok rfl).trans ?_
  rw [hs]
  rfl

theorem perform_forM {P : List (Segment α) → Prop} {steps : β → InPlace α Unit}
    {change : List (Segment α) → β → List (Segment α)} {bs : List β} (hstart : P segments)
    (hstep : ∀ b ∈ bs, ∀ segs, P segs →
      (steps b).perform segs = (.ok (), change segs b) ∧ P (change segs b)) :
    (bs.forM steps).perform segments = (.ok (), bs.foldl change segments) := by
  induction bs generalizing segments with
  | nil => rfl
  | cons b bs ih =>
    obtain ⟨hb, hkeeps⟩ := hstep b List.mem_cons_self segments hstart
    have hrest := ih hkeeps fun c hc => hstep c (List.mem_cons_of_mem b hc)
    have hsplit : (b :: bs).forM steps = steps b >>= fun _ => bs.forM steps := rfl
    rw [hsplit, perform_bind_of_ok hb]
    exact hrest

end InPlace

namespace RoadNetwork

open InPlace

/-! ## Linking -/

-- the references that are gone through lead one way, those that are written the other way, so
-- that a loop never writes to the list that it goes through, not even at a segment that names itself
def announceInPlace (way : Way) (id : Int) : InPlace α Unit := do
  ((← seek id).named way).forM fun other => do
    let _ ← seek other
    modify (update other (·.adopt way.back id))

def linkInPlace : InPlace α Unit := do
  ((← get).map (·.id)).forM fun id => do
    announceInPlace .ahead id
    announceInPlace .behind id

/-- Among known segments every lookup succeeds, so that writing in place is adding the ends of
links to the list of segments. -/
theorem perform_announceInPlace {segments : List (Segment α)} (hknown : Known segments) (way : Way)
    {id : Int} (hid : id ∈ segments.map (·.id)) :
    (announceInPlace way id).perform segments = (.ok (), announce way segments id) := by
  obtain ⟨s, hs⟩ := exists_find? hid
  have hnamed : namedBy way segments id = s.named way := by simp [namedBy, hs]
  have hothers : ∀ other ∈ s.named way, other ∈ segments.map (·.id) := by
    intro other hother
    exact hknown way id other (hnamed ▸ hother)
  rw [announceInPlace, perform_bind_of_ok (perform_seek hs), announce, hnamed]
  apply perform_forM (P := fun segs => segs.map (·.id) = segments.map (·.id)) rfl
  intro other hother segs hsegs
  obtain ⟨t, ht⟩ := exists_find? (hsegs ▸ hothers other hother)
  rw [perform_bind_of_ok (perform_seek ht)]
  exact ⟨rfl, (ids_update_adopt way.back id other segs).trans hsegs⟩

theorem perform_linkInPlace {segments : List (Segment α)} (hknown : Known segments) :
    linkInPlace.perform segments = (.ok (), link segments) := by
  refine (perform_bind_of_ok rfl).trans ?_
  apply perform_forM (P := fun segs => Known segs ∧ segs.map (·.id) = segments.map (·.id))
    ⟨hknown, rfl⟩
  rintro id hid segs ⟨hsegs, hids⟩
  have hmem : id ∈ segs.map (·.id) := hids ▸ hid
  obtain ⟨hahead, -⟩ : Grown segs (announce .ahead segs id) ∧ _ :=
    grown_announce .ahead hsegs fun _ h => h
  have hmem' : id ∈ (announce .ahead segs id).map (·.id) := hahead.ids ▸ hmem
  obtain ⟨hgrown, -⟩ := grown_linkOne hsegs id
  constructor
  · rw [perform_bind_of_ok (perform_announceInPlace hsegs .ahead hmem), linkOne_eq]
    exact perform_announceInPlace (hahead.known hsegs) .behind hmem'
  · exact ⟨hgrown.known hsegs, hgrown.ids.trans hids⟩

/-! ## Construction -/

/-- What a network is asked by: itself, the shoulders beside its segments and its graph. -/
structure Snapshot (α : Type) where
  network : RoadNetwork α
  shoulders : ShoulderIndex
  graph : RoutingGraph α

/-- No query about a known segment fails, and each has the answer of the network. -/
structure Snapshot.Answers (snapshot : Snapshot α) (id : Int) : Prop where
  ahead : ∃ roads, snapshot.network.seekNamed .ahead id = .ok roads ∧
    snapshot.network.successorRoads id = .ok roads
  behind : ∃ roads, snapshot.network.seekNamed .behind id = .ok roads ∧
    snapshot.network.predecessorRoads id = .ok roads
  lateral : ∃ lanes, snapshot.network.seekLateral id = .ok lanes ∧
    snapshot.network.lateralNeighbors id = .ok lanes
  changes : ∃ targets, snapshot.network.seekChanges id = .ok targets ∧
    snapshot.network.laneChangeNeighbors id = .ok targets
  shoulders : snapshot.network.seekShoulders snapshot.shoulders id =
    .ok (snapshot.network.adjacentShoulders id)

theorem answers_of_closed {snapshot : Snapshot α} (h : snapshot.network.Closed) {id : Int}
    (hid : id ∈ snapshot.network.ids)
    (hshoulders : snapshot.network.seekShoulders snapshot.shoulders id =
      .ok (snapshot.network.adjacentShoulders id)) : snapshot.Answers id := by
  obtain ⟨s, hs⟩ := mem_ids_iff.1 hid
  have hlookup := segment_eq_ok.2 hs
  have hmem := List.mem_of_find?_eq_some hs
  obtain ⟨lanes, hlanes⟩ : ∃ lanes, snapshot.network.lateralNeighbors id = .ok lanes :=
    ⟨_, Fallible.map_eq_ok.2 ⟨s, hlookup, rfl⟩⟩
  constructor
  case ahead => exact ⟨_, h.seekNamed .ahead hs, Fallible.map_eq_ok.2 ⟨s, hlookup, rfl⟩⟩
  case behind => exact ⟨_, h.seekNamed .behind hs, Fallible.map_eq_ok.2 ⟨s, hlookup, rfl⟩⟩
  case lateral => exact ⟨lanes, (h.seekLateral hs).trans hlanes, hlanes⟩
  case changes =>
    have htargets := Fallible.bind_eq_ok.2 ⟨s, hlookup, h.seekTargets hmem⟩
    exact ⟨_, htargets, Fallible.map_eq_ok.2 ⟨s, hlookup, rfl⟩⟩
  case shoulders => exact hshoulders

section Scalars

variable [Scalar α]

def gathered (linked : List (Segment α)) (spaces : List (ParkingSpace α))
    (lots : List (ParkingLot α)) (cost : α) : RoadNetwork α where
  segments := linked.mergeSort fun s t => decide (s.id ≤ t.id)
  parkingSpaces := spaces
  parkingLots := lots
  laneChangeCost := cost

def survey (net : RoadNetwork α) (given : List (Segment α)) : Except Fault (Snapshot α) := do
  let shoulders ← net.indexShoulders given
  let graph ← net.seekGraph
  return ⟨net, shoulders, graph⟩

def construct (spaces : List (ParkingSpace α)) (lots : List (ParkingLot α)) (cost : α) :
    InPlace α (Snapshot α) := do
  settle .inl (check (← get))
  linkInPlace
  let linked ← get
  settle .inr (survey (gathered linked spaces lots cost) linked)

variable {segments : List (Segment α)} {spaces : List (ParkingSpace α)}
  {lots : List (ParkingLot α)} {cost : α}

theorem perform_construct_of_fault {fault : NetworkFault α} (h : check segments = .error fault) :
    (construct spaces lots cost).perform segments = (.error (.inl fault), segments) := by
  refine (perform_bind_of_ok rfl).trans (perform_bind_of_error ?_)
  rw [h]
  rfl

theorem exists_perform_construct (spaces : List (ParkingSpace α)) (lots : List (ParkingLot α))
    (cost : α) (h : check segments = .ok ()) :
    ∃ snapshot, (construct spaces lots cost).perform segments = (.ok snapshot, link segments) ∧
      build segments spaces lots cost = .ok snapshot.network ∧
      snapshot.shoulders.keys = snapshot.network.ids ∧
      (∀ id ∈ snapshot.network.ids,
        snapshot.shoulders.beside id = (snapshot.network.adjacentShoulders id).map (·.id)) ∧
      snapshot.graph = snapshot.network.graph := by
  obtain ⟨net, hnet⟩ : ∃ net, net = gathered (link segments) spaces lots cost := ⟨_, rfl⟩
  have hbuild : build segments spaces lots cost = .ok net :=
    Fallible.bind_eq_ok.2 ⟨(), h, hnet ▸ rfl⟩
  have hn : net.Accepted := ⟨segments, spaces, lots, cost, hbuild⟩
  have hclosed := closed_of_build hbuild
  obtain ⟨index, hindex, hkeys, hbeside⟩ :=
    exists_indexShoulders hclosed hn.nodup_ids (perm_of_build hbuild).1.symm
  have hsurvey : survey net (link segments) = .ok ⟨net, index, net.graph⟩ :=
    Fallible.bind_eq_ok.2 ⟨index, hindex, Fallible.bind_eq_ok.2 ⟨_, hclosed.seekGraph, rfl⟩⟩
  refine ⟨⟨net, index, net.graph⟩, ?_, hbuild, hkeys, hbeside, rfl⟩
  calc (construct spaces lots cost).perform segments
      = (settle .inl (check segments) >>= _ : InPlace α (Snapshot α)).perform segments :=
        perform_bind_of_ok rfl
    _ = _ := perform_bind_of_ok (perform_settle h)
    _ = _ := perform_bind_of_ok (perform_linkInPlace (known_of_checked h))
    _ = _ := perform_bind_of_ok rfl
    _ = _ := perform_settle (hnet ▸ hsurvey)

/-- A construction ends with a refusal, and this exactly when the list of segments is defective, or
with a network. A refusal has left all segments as they were. In a network every id that is
stored is known, be it named by a segment, added by linking or entered as that of a shoulder, and
no query about a known segment fails. -/
theorem construct_cases (segments : List (Segment α)) (spaces : List (ParkingSpace α))
    (lots : List (ParkingLot α)) (cost : α) :
    match (construct spaces lots cost).perform segments with
    | (.error fault, kept) =>
      Defective segments ∧ kept = segments ∧
        ∃ refusal, fault = .inl refusal ∧ build segments spaces lots cost = .error refusal
    | (.ok snapshot, kept) =>
      ¬ Defective segments ∧ build segments spaces lots cost = .ok snapshot.network ∧
        kept = link segments ∧
        (∀ s ∈ kept, ∀ id ∈ s.references, id ∈ segments.map (·.id)) ∧
        (∀ entry ∈ snapshot.shoulders, entry.1 ∈ segments.map (·.id) ∧
          ∀ id ∈ entry.2, id ∈ segments.map (·.id)) ∧
        snapshot.graph = snapshot.network.graph ∧
        ∀ id ∈ segments.map (·.id), snapshot.Answers id := by
  cases hcheck : check segments with
  | error fault =>
    rw [perform_construct_of_fault hcheck]
    refine ⟨?_, rfl, fault, rfl, ?_⟩
    · by_contra hsound
      rw [check_eq_ok_iff.2 hsound] at hcheck
      cases hcheck
    · rw [build, hcheck]
      rfl
  | ok u =>
    obtain ⟨snapshot, hperform, hbuild, hkeys, hbeside, hgraph⟩ :=
      exists_perform_construct spaces lots cost hcheck
    rw [hperform]
    have hn : snapshot.network.Accepted := ⟨segments, spaces, lots, cost, hbuild⟩
    have hclosed := closed_of_build hbuild
    have hids : ∀ {id}, id ∈ snapshot.network.ids ↔ id ∈ segments.map (·.id) :=
      mem_ids_of_build hbuild
    refine ⟨check_eq_ok_iff.1 hcheck, hbuild, rfl, ?references, ?entries, hgraph, ?queries⟩
    case references =>
      intro s hs id hid
      exact hids.1 (hclosed s ((perm_of_build hbuild).1.symm.subset hs) id hid)
    case entries =>
      intro entry hentry
      have hkey : entry.1 ∈ snapshot.network.ids := hkeys ▸ List.mem_map_of_mem hentry
      refine ⟨hids.1 hkey, ?_⟩
      intro id hid
      rw [← ShoulderIndex.beside_of_mem (hkeys ▸ hn.nodup_ids) hentry, hbeside _ hkey] at hid
      obtain ⟨t, ht, rfl⟩ := List.mem_map.1 hid
      exact hids.1 (mem_ids_iff.2 ⟨t, segment?_of_mem_adjacentShoulders hn.nodup_ids ht⟩)
    case queries =>
      intro id hid
      have hknown := hids.2 hid
      exact answers_of_closed hclosed hknown (seekShoulders_eq hn.nodup_ids (hbeside id hknown))

end Scalars

end RoadNetwork

end LaneRoute
