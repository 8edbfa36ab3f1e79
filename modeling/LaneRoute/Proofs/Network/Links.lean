import LaneRoute.Proofs.Network.Groups

/-!
# Longitudinal links

What closing the longitudinal references comes to. A link has two ends, and each of its two
segments may be the one that names the other. Linking adds the missing ends: it changes no
link, and since every segment is asked for its links once, none is left with one end.
-/

set_option autoImplicit false

namespace LaneRoute

variable {α : Type}

inductive Way where
  | ahead
  | behind

def Way.back : Way → Way
  | ahead => behind
  | behind => ahead

@[simp] theorem Way.back_back (way : Way) : way.back.back = way := by cases way <;> rfl

theorem Way.eq_or_eq_back (way other : Way) : other = way ∨ other = way.back := by
  cases way <;> cases other <;> simp [Way.back]

namespace Segment

def named (way : Way) (s : Segment α) : List Int :=
  match way with
  | .ahead => s.successors
  | .behind => s.predecessors

def adopt (way : Way) (id : Int) (s : Segment α) : Segment α :=
  match way with
  | .ahead => { s with successors := RoadNetwork.appendNew id s.successors }
  | .behind => { s with predecessors := RoadNetwork.appendNew id s.predecessors }

@[simp] theorem id_adopt (way : Way) (id : Int) (s : Segment α) : (s.adopt way id).id = s.id := by
  cases way <;> rfl

@[simp] theorem named_adopt (way : Way) (id : Int) (s : Segment α) :
    (s.adopt way id).named way = RoadNetwork.appendNew id (s.named way) := by
  cases way <;> rfl

@[simp] theorem named_back_adopt (way : Way) (id : Int) (s : Segment α) :
    (s.adopt way.back id).named way = s.named way := by
  cases way <;> rfl

theorem adopt_of_mem {way : Way} {id : Int} {s : Segment α} (h : id ∈ s.named way) :
    s.adopt way id = s := by
  cases way <;> simp_all [adopt, named, RoadNetwork.appendNew]

end Segment

namespace RoadNetwork

def namedBy (way : Way) (segments : List (Segment α)) (id : Int) : List Int :=
  ((find? id segments).map (·.named way)).getD []

def announce (way : Way) (segments : List (Segment α)) (id : Int) : List (Segment α) :=
  (namedBy way segments id).foldl (fun segs other => update other (·.adopt way.back id) segs) segments

theorem linkOne_eq (segments : List (Segment α)) (id : Int) :
    linkOne segments id = announce .behind (announce .ahead segments id) id := rfl

/-! ## One end of a link -/

theorem find?_update {f : Segment α → Segment α} (hf : ∀ s, (f s).id = s.id) (id other : Int)
    (segments : List (Segment α)) :
    find? other (update id f segments) =
      (find? other segments).map fun s => if s.id = id then f s else s := by
  have hid : (fun s : Segment α => decide ((if s.id = id then f s else s).id = other)) =
      fun s => decide (s.id = other) := by
    funext s
    split <;> simp [hf]
  simp only [find?, update, List.find?_map, Function.comp_def, hid]

theorem ids_update_adopt (way : Way) (new id : Int) (segments : List (Segment α)) :
    (update id (·.adopt way new) segments).map (·.id) = segments.map (·.id) := by
  rw [update, List.map_map]
  apply List.map_congr_left
  intro s _
  by_cases hs : s.id = id <;> simp [hs]

theorem namedBy_update_same {way : Way} {segments : List (Segment α)} {new other : Int}
    (hother : other ∈ segments.map (·.id)) :
    namedBy way (update other (·.adopt way new) segments) other =
      appendNew new (namedBy way segments other) := by
  obtain ⟨s, hs⟩ := exists_find? hother
  have hid : s.id = other := by simpa using List.find?_some hs
  simp [namedBy, find?_update (Segment.id_adopt way new), hs, hid]

theorem namedBy_update_other {way : Way} {segments : List (Segment α)} {new id other : Int}
    (h : id ≠ other) :
    namedBy way (update other (·.adopt way new) segments) id = namedBy way segments id := by
  rw [namedBy, find?_update (Segment.id_adopt way new), namedBy]
  cases hs : find? id segments with
  | none => rfl
  | some s =>
    have hid : s.id = id := by simpa using List.find?_some hs
    simp [hid, h]

theorem namedBy_update_back {way : Way} {segments : List (Segment α)} {new id other : Int} :
    namedBy way (update other (·.adopt way.back new) segments) id = namedBy way segments id := by
  rw [namedBy, find?_update (Segment.id_adopt way.back new), namedBy, Option.map_map]
  congr 2
  funext s
  by_cases hid : s.id = other <;> simp [hid]

theorem mem_ids_of_mem_namedBy {way : Way} {segments : List (Segment α)} {id other : Int}
    (h : other ∈ namedBy way segments id) : id ∈ segments.map (·.id) := by
  unfold namedBy at h
  cases hs : find? id segments with
  | none => simp [hs] at h
  | some s =>
    have hid : s.id = id := by simpa using List.find?_some hs
    exact hid ▸ List.mem_map_of_mem (List.mem_of_find?_eq_some hs)

/-! ## Growth -/

/-- Ids are kept in front, and what comes after them is new and comes once. -/
def Prolongs (ids longer : List Int) : Prop :=
  ∃ more, longer = ids ++ more ∧ more.Nodup ∧ ids.Disjoint more

theorem Prolongs.refl (ids : List Int) : Prolongs ids ids := ⟨[], by simp⟩

theorem Prolongs.subset {ids longer : List Int} (h : Prolongs ids longer) : ids ⊆ longer := by
  obtain ⟨more, rfl, -⟩ := h
  exact List.subset_append_left ids more

theorem Prolongs.trans {ids longer longest : List Int} (h : Prolongs ids longer)
    (hnext : Prolongs longer longest) : Prolongs ids longest := by
  obtain ⟨more, rfl, hmore, hdisjoint⟩ := h
  obtain ⟨next, rfl, hnext, happart⟩ := hnext
  obtain ⟨hids, hbetween⟩ := List.disjoint_append_left.1 happart
  refine ⟨more ++ next, List.append_assoc ids more next, ?_, ?_⟩
  · exact List.nodup_append'.2 ⟨hmore, hnext, hbetween⟩
  · exact List.disjoint_append_right.2 ⟨hdisjoint, hids⟩

theorem prolongs_appendNew (id : Int) (ids : List Int) : Prolongs ids (appendNew id ids) := by
  unfold appendNew
  split
  next => exact .refl ids
  next hid => exact ⟨[id], rfl, List.nodup_singleton id, List.disjoint_singleton.2 hid⟩

theorem mem_appendNew {id other : Int} {ids : List Int} :
    other ∈ appendNew id ids ↔ other ∈ ids ∨ other = id := by
  unfold appendNew
  split
  next hid => exact ⟨Or.inl, fun h => h.elim (fun h => h) fun he => he ▸ hid⟩
  next => simp

def Tied (way : Way) (segments : List (Segment α)) (a b : Int) : Prop :=
  b ∈ namedBy way segments a ∨ a ∈ namedBy way.back segments b

theorem tied_back {way : Way} {segments : List (Segment α)} {a b : Int} :
    Tied way.back segments b a ↔ Tied way segments a b := by
  rw [Tied, Tied, Way.back_back, or_comm]

structure Grown (segments grown : List (Segment α)) : Prop where
  ids : grown.map (·.id) = segments.map (·.id)
  kept : ∀ way id, Prolongs (namedBy way segments id) (namedBy way grown id)
  tied : ∀ way a b, Tied way grown a b → Tied way segments a b

theorem Grown.refl (segments : List (Segment α)) : Grown segments segments :=
  ⟨rfl, fun _ _ => .refl _, fun _ _ _ h => h⟩

theorem Grown.trans {segments grown more : List (Segment α)} (h : Grown segments grown)
    (hmore : Grown grown more) : Grown segments more where
  ids := hmore.ids.trans h.ids
  kept way id := (h.kept way id).trans (hmore.kept way id)
  tied way a b htied := h.tied way a b (hmore.tied way a b htied)

def Known (segments : List (Segment α)) : Prop :=
  ∀ way id, ∀ other ∈ namedBy way segments id, other ∈ segments.map (·.id)

theorem Grown.known {segments grown : List (Segment α)} (h : Grown segments grown)
    (hknown : Known segments) : Known grown := by
  intro way id other hother
  rw [h.ids]
  rcases h.tied way id other (Or.inl hother) with hnamed | hnamed
  · exact hknown way id other hnamed
  · exact mem_ids_of_mem_namedBy hnamed

theorem grown_update {way : Way} {segments : List (Segment α)} {id other : Int}
    (hknown : Known segments) (h : other ∈ namedBy way segments id) :
    Grown segments (update other (·.adopt way.back id) segments) := by
  have hback : ∀ i, namedBy way.back (update other (·.adopt way.back id) segments) i =
      if i = other then appendNew id (namedBy way.back segments i)
      else namedBy way.back segments i := by
    intro i
    split
    next hi =>
      subst hi
      exact namedBy_update_same (hknown way id i h)
    next hi => exact namedBy_update_other hi
  -- what is named anew is named from the other end already
  have hends : ∀ w a b, b ∈ namedBy w (update other (·.adopt way.back id) segments) a →
      Tied w segments a b := by
    intro w a b hb
    rcases way.eq_or_eq_back w with rfl | rfl
    · rw [namedBy_update_back] at hb
      exact Or.inl hb
    · rw [hback] at hb
      split at hb
      next ha =>
        subst ha
        rcases mem_appendNew.1 hb with hb | rfl
        · exact Or.inl hb
        · exact tied_back.2 (Or.inl h)
      next => exact Or.inl hb
  refine ⟨?ids, ?kept, ?tied⟩
  case ids => exact ids_update_adopt way.back id other segments
  case kept =>
    intro w i
    rcases way.eq_or_eq_back w with rfl | rfl
    · rw [namedBy_update_back]
      exact .refl _
    · rw [hback]
      split
      · exact prolongs_appendNew _ _
      · exact .refl _
  case tied =>
    intro w a b htied
    rcases htied with hb | ha
    · exact hends w a b hb
    · exact tied_back.1 (hends w.back b a ha)

/-! ## All links of a segment -/

theorem grown_announce (way : Way) {id : Int} {others : List Int} {segments : List (Segment α)}
    (hknown : Known segments) (h : ∀ other ∈ others, other ∈ namedBy way segments id) :
    let grown := others.foldl (fun segs other => update other (·.adopt way.back id) segs) segments
    Grown segments grown ∧ ∀ other ∈ others, id ∈ namedBy way.back grown other := by
  induction others generalizing segments with
  | nil => exact ⟨.refl segments, by simp⟩
  | cons first others ih =>
    have hfirst := h first (by simp)
    have hstep := grown_update hknown hfirst
    have hothers : ∀ other ∈ others,
        other ∈ namedBy way (update first (·.adopt way.back id) segments) id := by
      intro other hother
      rw [namedBy_update_back]
      exact h other (by simp [hother])
    obtain ⟨hgrown, hnamed⟩ := ih (hstep.known hknown) hothers
    refine ⟨hstep.trans hgrown, List.forall_mem_cons.2 ⟨?_, hnamed⟩⟩
    apply (hgrown.kept way.back first).subset
    rw [namedBy_update_same (hknown way id first hfirst)]
    exact mem_appendNew.2 (Or.inr rfl)

theorem grown_linkOne {segments : List (Segment α)} (hknown : Known segments) (id : Int) :
    Grown segments (linkOne segments id) ∧
      ∀ way, ∀ other ∈ namedBy way segments id, id ∈ namedBy way.back (linkOne segments id) other := by
  obtain ⟨hahead, hnamed⟩ := grown_announce .ahead hknown fun _ h => h
  obtain ⟨hbehind, hnamed'⟩ :=
    grown_announce .behind (hahead.known hknown) fun _ h => h
  refine ⟨hahead.trans hbehind, fun way other hother => ?_⟩
  cases way with
  | ahead => exact (hbehind.kept .behind other).subset (hnamed other hother)
  | behind => exact hnamed' other ((hahead.kept .behind id).subset hother)

theorem grown_foldl_linkOne {segments : List (Segment α)} (hknown : Known segments)
    (ids : List Int) :
    Grown segments (ids.foldl linkOne segments) ∧
      ∀ id ∈ ids, ∀ way, ∀ other ∈ namedBy way segments id,
        id ∈ namedBy way.back (ids.foldl linkOne segments) other := by
  induction ids generalizing segments with
  | nil => exact ⟨.refl segments, by simp⟩
  | cons first ids ih =>
    obtain ⟨hstep, hfirst⟩ := grown_linkOne hknown first
    obtain ⟨hgrown, hnamed⟩ := ih (hstep.known hknown)
    refine ⟨hstep.trans hgrown, List.forall_mem_cons.2 ⟨?_, ?_⟩⟩
    · intro way other hother
      exact (hgrown.kept way.back other).subset (hfirst way other hother)
    · intro id hid way other hother
      exact hnamed id hid way other ((hstep.kept way id).subset hother)

theorem mem_namedBy_link {segments : List (Segment α)} (hknown : Known segments) {way : Way}
    {a b : Int} : b ∈ namedBy way (link segments) a ↔ Tied way segments a b := by
  obtain ⟨hgrown, hnamed⟩ := grown_foldl_linkOne hknown (segments.map (·.id))
  constructor
  · intro h
    exact hgrown.tied way a b (Or.inl h)
  · rintro (h | h)
    · exact (hgrown.kept way a).subset h
    · have hback := hnamed b (mem_ids_of_mem_namedBy h) way.back a h
      rwa [Way.back_back] at hback

/-! ## Closed references -/

/-- Every link has both of its ends. -/
def TwoEnded (segments : List (Segment α)) : Prop :=
  ∀ way a b, b ∈ namedBy way segments a → a ∈ namedBy way.back segments b

theorem twoEnded_link {segments : List (Segment α)} (hknown : Known segments) :
    TwoEnded (link segments) := by
  intro way a b h
  rw [mem_namedBy_link hknown] at h ⊢
  exact tied_back.2 h

theorem update_of_named {way : Way} {segments : List (Segment α)}
    (hids : (segments.map (·.id)).Nodup) {id other : Int} (h : id ∈ namedBy way segments other) :
    update other (·.adopt way id) segments = segments := by
  rw [update]
  refine (List.map_congr_left fun s hs => ?_).trans (List.map_id segments)
  rw [id_eq]
  split
  next he =>
    subst he
    rw [namedBy, find?_of_mem hids hs] at h
    exact Segment.adopt_of_mem h
  next => rfl

theorem announce_of_twoEnded {way : Way} {segments : List (Segment α)}
    (hids : (segments.map (·.id)).Nodup) (h : TwoEnded segments) (id : Int) :
    announce way segments id = segments := by
  have hrun : ∀ others : List Int, (∀ other ∈ others, other ∈ namedBy way segments id) →
      others.foldl (fun segs other => update other (·.adopt way.back id) segs) segments
        = segments := by
    intro others hothers
    induction others with
    | nil => rfl
    | cons first others ih =>
      rw [List.foldl_cons, update_of_named hids (h way id first (hothers first (by simp)))]
      exact ih fun other hother => hothers other (by simp [hother])
  exact hrun _ fun _ hother => hother

theorem link_of_twoEnded {segments : List (Segment α)} (hids : (segments.map (·.id)).Nodup)
    (h : TwoEnded segments) : link segments = segments := by
  have hrun : ∀ ids : List Int, ids.foldl linkOne segments = segments := by
    intro ids
    induction ids with
    | nil => rfl
    | cons id ids ih =>
      rw [List.foldl_cons, linkOne_eq, announce_of_twoEnded hids h, announce_of_twoEnded hids h, ih]
  exact hrun _

/-! ## Accepted segments -/

theorem find?_perm {segments others : List (Segment α)} (hids : (segments.map (·.id)).Nodup)
    (h : others.Perm segments) (id : Int) : find? id others = find? id segments := by
  have hids' : (others.map (·.id)).Nodup := (h.map _).nodup_iff.2 hids
  cases hs : find? id segments with
  | none =>
    rw [find?, List.find?_eq_none] at hs ⊢
    exact fun s hmem => hs s (h.subset hmem)
  | some s =>
    obtain rfl : s.id = id := by simpa using List.find?_some hs
    exact find?_of_mem hids' (h.symm.subset (List.mem_of_find?_eq_some hs))

theorem namedBy_perm {segments others : List (Segment α)} (hids : (segments.map (·.id)).Nodup)
    (h : others.Perm segments) (way : Way) (id : Int) :
    namedBy way others id = namedBy way segments id := by
  rw [namedBy, find?_perm hids h, namedBy]

theorem firstRepeated?_of_nodup {seen ids : List Int} (h : ids.Nodup) (hseen : ids.Disjoint seen) :
    firstRepeated? seen ids = none := by
  induction ids generalizing seen with
  | nil => rfl
  | cons id ids ih =>
    obtain ⟨hid, hnodup⟩ := List.nodup_cons.1 h
    obtain ⟨hfresh, hrest⟩ := List.disjoint_cons_left.1 hseen
    rw [firstRepeated?, if_neg hfresh]
    exact ih hnodup (List.disjoint_cons_right.2 ⟨hid, hrest⟩)

section Scalars

variable [Scalar α] {segments : List (Segment α)}

theorem check_of_all (hids : (segments.map (·.id)).Nodup)
    (h : ∀ s ∈ segments, checkSegment (segments.map (·.id)) s = .ok ()) :
    check segments = .ok () := by
  have hnone := firstRepeated?_of_nodup hids (List.disjoint_nil_right _)
  simp only [check, hnone]
  have hrun : ∀ ss ⊆ segments, ss.forM (checkSegment (segments.map (·.id))) = .ok () := by
    intro ss hss
    induction ss with
    | nil => rfl
    | cons s ss ih =>
      obtain ⟨hs, hrest⟩ := List.cons_subset.1 hss
      exact Fallible.bind_eq_ok.2 ⟨(), h s hs, ih hrest⟩
  exact hrun segments (List.Subset.refl segments)

theorem known_of_check {ids : List Int} {s : Segment α} (h : checkSegment ids s = .ok ()) :
    ∀ id ∈ s.references, id ∈ ids := by
  rw [checkSegment] at h
  split at h
  · cases h
  · split at h
    · cases h
    next hnone =>
      intro id hid
      simpa using List.find?_eq_none.1 hnone id hid

theorem checkSegment_congr {ids others : List Int} (h : ∀ id, id ∈ ids ↔ id ∈ others)
    (s : Segment α) : checkSegment ids s = checkSegment others s := by
  simp only [checkSegment, h]

theorem known_of_checked (h : check segments = .ok ()) : Known segments := by
  intro way id other hother
  rw [namedBy] at hother
  cases hs : find? id segments with
  | none => simp [hs] at hother
  | some s =>
    have hnamed : other ∈ s.named way := by simpa [hs] using hother
    have hreference : other ∈ s.references := by
      rw [Segment.references, List.mem_append, List.mem_append]
      cases way with
      | ahead => exact Or.inl (Or.inl hnamed)
      | behind => exact Or.inl (Or.inr hnamed)
    exact known_of_check ((check_eq_ok h).2 s (List.mem_of_find?_eq_some hs)) other hreference

theorem check_perm {others : List (Segment α)} (h : check segments = .ok ())
    (hperm : others.Perm segments) : check others = .ok () := by
  obtain ⟨hids, hall⟩ := check_eq_ok h
  have hsame := hperm.map (·.id)
  apply check_of_all (hsame.nodup_iff.2 hids)
  intro s hs
  rw [checkSegment_congr (fun id => hsame.mem_iff)]
  exact hall s (hperm.subset hs)

theorem namedBy_build {spaces : List (ParkingSpace α)} {lots : List (ParkingLot α)} {cost : α}
    {net : RoadNetwork α} (h : build segments spaces lots cost = .ok net) :
    check segments = .ok () ∧
      ∀ way id, namedBy way net.segments id = namedBy way (link segments) id := by
  obtain ⟨_, hcheck, hnet⟩ := Fallible.bind_eq_ok.1 h
  obtain rfl := Fallible.pure_eq_ok.1 hnet
  have hids : ((link segments).map (·.id)).Nodup := by
    rw [ids_link]
    exact (check_eq_ok hcheck).1
  exact ⟨hcheck, namedBy_perm hids (List.mergeSort_perm _ _)⟩

/-- In a network that was built each segment is named by those that it names, in the other
direction. It names those that it was given as naming, in their order, and after them, once
each, those that named it. Linking again changes nothing, and in which order the segments were
given does not matter. -/
theorem build_links {spaces : List (ParkingSpace α)} {lots : List (ParkingLot α)} {cost : α}
    {net : RoadNetwork α} (h : build segments spaces lots cost = .ok net) :
    (∀ a b, b ∈ namedBy .ahead net.segments a ↔ a ∈ namedBy .behind net.segments b) ∧
    (∀ a b, b ∈ namedBy .ahead net.segments a ↔
      b ∈ namedBy .ahead segments a ∨ a ∈ namedBy .behind segments b) ∧
    (∀ way id, ∃ more, namedBy way net.segments id = namedBy way segments id ++ more ∧
      more.Nodup ∧ (namedBy way segments id).Disjoint more) ∧
    link (link segments) = link segments ∧ link net.segments = net.segments ∧
    ∀ others : List (Segment α), others.Perm segments →
      ∃ other, build others spaces lots cost = .ok other ∧ ∀ way a b,
        b ∈ namedBy way other.segments a ↔ b ∈ namedBy way net.segments a := by
  obtain ⟨hcheck, hnet⟩ := namedBy_build h
  have hknown := known_of_checked hcheck
  have hclosed := twoEnded_link hknown
  have hmem : ∀ way a b, b ∈ namedBy way net.segments a ↔ Tied way segments a b := by
    intro way a b
    rw [hnet, mem_namedBy_link hknown]
  have hids : ((link segments).map (·.id)).Nodup := by
    rw [ids_link]
    exact (check_eq_ok hcheck).1
  refine ⟨?inverse, fun a b => hmem .ahead a b, ?kept, link_of_twoEnded hids hclosed, ?again, ?order⟩
  case inverse =>
    intro a b
    rw [hmem, hmem]
    have hturn : Tied Way.ahead.back segments b a ↔ Tied .ahead segments a b := tied_back
    exact hturn.symm
  case kept =>
    intro way id
    rw [hnet]
    exact (grown_foldl_linkOne hknown _).1.kept way id
  case again =>
    have ha : net.Accepted := ⟨segments, spaces, lots, cost, h⟩
    apply link_of_twoEnded ha.nodup_ids
    intro way a b hb
    rw [hnet] at hb ⊢
    exact hclosed way a b hb
  case order =>
    intro others hperm
    have hcheck' := check_perm hcheck hperm
    have hother : ∃ other, build others spaces lots cost = .ok other :=
      ⟨_, Fallible.bind_eq_ok.2 ⟨(), hcheck', rfl⟩⟩
    obtain ⟨other, hother⟩ := hother
    refine ⟨other, hother, fun way a b => ?_⟩
    have hgiven := namedBy_perm (check_eq_ok hcheck).1 hperm
    rw [(namedBy_build hother).2, mem_namedBy_link (known_of_checked hcheck'), hmem, Tied, Tied,
      hgiven, hgiven]

/-- On the ring the links that were given at one end get the other end. -/
theorem ring_links : ∃ net, build ringRoads [] [] 2 = .ok net ∧
    1 ∈ namedBy .behind net.segments 3 ∧ 3 ∈ namedBy .behind net.segments 2 := by
  have hbuilt : (build ringRoads [] [] 2).toOption.isSome = true := by decide +kernel
  obtain ⟨net, hnet⟩ := Option.isSome_iff_exists.1 hbuilt
  have hbuild := Fallible.ok_of_toOption hnet
  obtain ⟨hinverse, hgiven, -⟩ := build_links hbuild
  have hfirst : 3 ∈ namedBy .ahead ringRoads 1 := by decide
  have hsecond : 2 ∈ namedBy .ahead ringRoads 3 := by decide
  exact ⟨net, hbuild, (hinverse 1 3).1 ((hgiven 1 3).2 (Or.inl hfirst)),
    (hinverse 3 2).1 ((hgiven 3 2).2 (Or.inl hsecond))⟩

end Scalars

end RoadNetwork

end LaneRoute
