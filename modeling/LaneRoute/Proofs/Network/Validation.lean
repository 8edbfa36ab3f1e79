import LaneRoute.Proofs.Network.Links

/-!
# Validation

What segments have to be for a network to accept them, and what stands in a network that was
built from them: the same segments with the missing ends of their links, in which every id that
is named is known.
-/

set_option autoImplicit false

namespace LaneRoute

variable {α : Type}

namespace Segment

theorem eq_of_bare {β : Type} {a s : Segment α} (f : Segment α → β)
    (hf : ∀ t : Segment α, f t.bare = f t) (h : a.bare = s.bare) : f a = f s := by
  rw [← hf a, h, hf s]

theorem id_eq_of_bare {a s : Segment α} (h : a.bare = s.bare) : a.id = s.id :=
  eq_of_bare (·.id) (fun _ => rfl) h

theorem isRoad_eq_of_bare {a s : Segment α} (h : a.bare = s.bare) : a.isRoad = s.isRoad :=
  eq_of_bare isRoad (fun _ => rfl) h

end Segment

namespace RoadNetwork

/-! ## What is refused -/

section Scalars

variable [Scalar α]

theorem checkSegment_eq_ok_iff {ids : List Int} {s : Segment α} :
    checkSegment ids s = .ok () ↔
      Scalar.isFinite s.length = true ∧ ¬ s.length ≤ 0 ∧ ∀ id ∈ s.references, id ∈ ids := by
  constructor
  · intro h
    have hknown := known_of_check h
    have hpositive := not_length_le_of_check h
    rw [checkSegment] at h
    split at h
    · cases h
    next hlength => exact ⟨by simp_all, hpositive, hknown⟩
  · rintro ⟨hfinite, hpositive, hknown⟩
    have hnone : s.references.find? (fun id => decide (id ∉ ids)) = none :=
      List.find?_eq_none.2 fun id hid => by simpa using hknown id hid
    simp only [checkSegment, hnone]
    simp [hfinite, hpositive]

/-- A list of segments that no network accepts. -/
def Defective (segments : List (Segment α)) : Prop :=
  ¬ (segments.map (·.id)).Nodup ∨
    (∃ s ∈ segments, Scalar.isFinite s.length = false ∨ s.length ≤ 0) ∨
    ∃ s ∈ segments, ∃ id ∈ s.references, id ∉ segments.map (·.id)

theorem check_eq_ok_iff {segments : List (Segment α)} :
    check segments = .ok () ↔ ¬ Defective segments := by
  constructor
  · intro h
    obtain ⟨hids, hall⟩ := check_eq_ok h
    rintro (hrepeated | ⟨s, hs, hlength⟩ | ⟨s, hs, id, hid, hunknown⟩)
    · exact hrepeated hids
    · obtain ⟨hfinite, hpositive, -⟩ := checkSegment_eq_ok_iff.1 (hall s hs)
      rcases hlength with hlength | hlength
      · rw [hfinite] at hlength
        cases hlength
      · exact hpositive hlength
    · exact hunknown (known_of_check (hall s hs) id hid)
  · intro h
    simp only [Defective, not_or, not_not, not_exists, not_and, Bool.not_eq_false] at h
    obtain ⟨hids, hlength, hknown⟩ := h
    apply check_of_all hids
    intro s hs
    exact checkSegment_eq_ok_iff.2 ⟨(hlength s hs).1, (hlength s hs).2, hknown s hs⟩

theorem accepted_alone {s : Segment α} (hfinite : Scalar.isFinite s.length = true)
    (hlength : ¬ s.length ≤ 0) (hreferences : s.references = []) (cost : α) :
    Accepted ⟨link [s], [], [], cost⟩ := by
  have hcheck : check [s] = .ok () := by
    refine check_of_all (List.nodup_singleton s.id) fun t ht => ?_
    rw [List.mem_singleton.1 ht, checkSegment_eq_ok_iff, hreferences]
    exact ⟨hfinite, hlength, by simp⟩
  exact accepted_of_ascending (by rw [hcheck]; rfl) (List.pairwise_singleton _ _) [] [] cost

end Scalars

/-! ## What stands in a network -/

def Closed (net : RoadNetwork α) : Prop := ∀ s ∈ net.segments, ∀ id ∈ s.references, id ∈ net.ids

section Scalars

variable [Scalar α] {segments : List (Segment α)} {spaces : List (ParkingSpace α)}
  {lots : List (ParkingLot α)} {cost : α} {net : RoadNetwork α}

theorem perm_of_build (h : build segments spaces lots cost = .ok net) :
    net.segments.Perm (link segments) ∧ net.laneChangeCost = cost := by
  obtain ⟨_, -, hnet⟩ := Fallible.bind_eq_ok.1 h
  obtain rfl := Fallible.pure_eq_ok.1 hnet
  exact ⟨List.mergeSort_perm _ _, rfl⟩

theorem parkingLots_of_build (h : build segments spaces lots cost = .ok net) :
    net.parkingLots = lots := by
  obtain ⟨_, -, hnet⟩ := Fallible.bind_eq_ok.1 h
  exact congrArg parkingLots (Fallible.pure_eq_ok.1 hnet).symm

theorem mem_ids_of_build (h : build segments spaces lots cost = .ok net) {id : Int} :
    id ∈ net.ids ↔ id ∈ segments.map (·.id) := by
  rw [ids, ((perm_of_build h).1.map _).mem_iff, ids_link]

theorem exists_given (h : build segments spaces lots cost = .ok net) {s : Segment α}
    (hs : s ∈ net.segments) : ∃ a ∈ segments, a.bare = s.bare :=
  exists_bare_of_mem_link ((perm_of_build h).1.subset hs)

theorem exists_linked (h : build segments spaces lots cost = .ok net) {a : Segment α}
    (ha : a ∈ segments) : ∃ s ∈ net.segments, a.bare = s.bare := by
  have hbare : a.bare ∈ (link segments).map Segment.bare := by
    rw [bare_link]
    exact List.mem_map_of_mem ha
  obtain ⟨s, hs, he⟩ := List.mem_map.1 hbare
  exact ⟨s, (perm_of_build h).1.symm.subset hs, he.symm⟩

theorem named_eq_namedBy (h : build segments spaces lots cost = .ok net) (way : Way)
    {s : Segment α} (hs : s ∈ net.segments) : s.named way = namedBy way net.segments s.id := by
  have hn : net.Accepted := ⟨segments, spaces, lots, cost, h⟩
  simp [namedBy, find?_of_mem hn.nodup_ids hs]

theorem closed_of_build (h : build segments spaces lots cost = .ok net) : net.Closed := by
  obtain ⟨hcheck, hnamed⟩ := namedBy_build h
  have hknown := known_of_checked hcheck
  have hlinked := (grown_foldl_linkOne hknown (segments.map (·.id))).1.known hknown
  have hway : ∀ way, ∀ s ∈ net.segments, ∀ id ∈ s.named way, id ∈ net.ids := by
    intro way s hs id hid
    rw [named_eq_namedBy h way hs, hnamed] at hid
    have hmem := hlinked way s.id id hid
    change id ∈ (link segments).map (·.id) at hmem
    rwa [ids_link, ← mem_ids_of_build h] at hmem
  intro s hs id hid
  rw [Segment.references, List.mem_append, List.mem_append] at hid
  rcases hid with (hid | hid) | hid
  · exact hway .ahead s hs id hid
  · exact hway .behind s hs id hid
  · obtain ⟨a, ha, hbare⟩ := exists_given h hs
    have hsides := Segment.eq_of_bare Segment.neighbors (fun _ => rfl) hbare
    have hreference : id ∈ a.references := by
      rw [Segment.references, List.mem_append, hsides]
      exact Or.inr hid
    exact (mem_ids_of_build h).2 (known_of_check ((check_eq_ok hcheck).2 a ha) id hreference)

end Scalars

end RoadNetwork

end LaneRoute
