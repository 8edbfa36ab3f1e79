import LaneRoute.Proofs.Network.Lookups

/-!
# Shoulders beside segments

The index of the shoulders beside each segment, as it is filled: every shoulder is entered for
the segments that it names, and then for those that name it. An entry for an unknown segment is
a fault. In a closed network there is none, and the index has for each segment the shoulders
that a look at all segments finds beside it.
-/

set_option autoImplicit false

namespace LaneRoute

/-- Each known id with the shoulders that were entered for it. -/
abbrev ShoulderIndex := List (Int × List Int)

namespace ShoulderIndex

open RoadNetwork (appendNew)

def keys (index : ShoulderIndex) : List Int := index.map Prod.fst

def beside (index : ShoulderIndex) (id : Int) : List Int := (index.lookup id).getD []

def blank (ids : List Int) : ShoulderIndex := ids.map (·, [])

def enter (index : ShoulderIndex) (entry : Int × Int) : Except Fault ShoulderIndex :=
  if entry.1 ∈ index.keys then
    .ok (index.map fun e => (e.1, if e.1 = entry.1 then appendNew entry.2 e.2 else e.2))
  else .error .unknown

def entered (id : Int) (entries : List (Int × Int)) : List Int :=
  (entries.filter (·.1 = id)).map Prod.snd

def appendAll (ids more : List Int) : List Int := more.foldl (fun ids id => appendNew id ids) ids

theorem appendAll_eq (ids more : List Int) :
    appendAll ids more = ids ++ (more.filter (· ∉ ids)).eraseDups := by
  induction more generalizing ids with
  | nil => simp [appendAll]
  | cons id more ih =>
    have hstep : appendAll ids (id :: more) = appendAll (appendNew id ids) more := rfl
    rw [hstep, ih]
    by_cases hid : id ∈ ids
    · simp [appendNew, hid]
    · have hfilter : more.filter (fun other => !other == id && decide (other ∉ ids)) =
          more.filter (· ∉ ids ++ [id]) := by
        apply List.filter_congr
        intro other _
        rw [Bool.eq_iff_iff]
        simp [and_comm]
      rw [appendNew, if_neg hid, List.filter_cons, if_pos (by simpa using hid),
        List.eraseDups_cons, List.filter_filter, hfilter, List.append_assoc]
      rfl

theorem entered_append (id : Int) (entries more : List (Int × Int)) :
    entered id (entries ++ more) = entered id entries ++ entered id more := by
  simp [entered]

theorem entered_filter (id : Int) (keep : Int → Bool) (entries : List (Int × Int)) :
    entered id (entries.filter fun entry => keep entry.2) = (entered id entries).filter keep := by
  simp only [entered, List.filter_map, List.filter_filter, Function.comp_def, Bool.and_comm]

theorem appendAll_append (ids more most : List Int) :
    appendAll ids (more ++ most) = appendAll (appendAll ids more) most := List.foldl_append

theorem appendAll_const (ids : List Int) {others : List Int} (id : Int) (h : others ≠ []) :
    appendAll ids (others.map fun _ => id) = appendNew id ids := by
  induction others generalizing ids with
  | nil => exact absurd rfl h
  | cons other others ih =>
    have hstep : appendAll ids ((other :: others).map fun _ => id) =
        appendAll (appendNew id ids) (others.map fun _ => id) := rfl
    by_cases hrest : others = []
    · rw [hstep, hrest]
      rfl
    · have hmem : id ∈ appendNew id ids := RoadNetwork.mem_appendNew.2 (Or.inr rfl)
      rw [hstep, ih _ hrest, appendNew, if_pos hmem]

theorem mem_appendAll {ids more : List Int} {id : Int} :
    id ∈ appendAll ids more ↔ id ∈ ids ∨ id ∈ more := by
  rw [appendAll_eq, List.mem_append, List.mem_eraseDups, List.mem_filter]
  by_cases hid : id ∈ ids <;> simp [hid]

theorem nodup_appendAll {ids : List Int} (h : ids.Nodup) (more : List Int) :
    (appendAll ids more).Nodup := by
  induction more generalizing ids with
  | nil => exact h
  | cons id more ih =>
    have hstep : appendAll ids (id :: more) = appendAll (appendNew id ids) more := rfl
    rw [hstep]
    apply ih
    unfold appendNew
    split
    · exact h
    next hfresh => exact List.nodup_append_comm.2 (List.nodup_cons.2 ⟨hfresh, h⟩)

theorem keys_blank (ids : List Int) : (blank ids).keys = ids := by
  simp [blank, keys, Function.comp_def]

theorem beside_blank (ids : List Int) (id : Int) : (blank ids).beside id = [] := by
  induction ids with
  | nil => rfl
  | cons other ids ih =>
    rw [beside, blank, List.map_cons, List.lookup_cons]
    cases id == other with
    | true => rfl
    | false => exact ih

theorem lookup_map_snd (f : Int → List Int → List Int) (index : ShoulderIndex) (id : Int) :
    (index.map fun e => (e.1, f e.1 e.2)).lookup id = (index.lookup id).map (f id) := by
  induction index with
  | nil => rfl
  | cons first index ih =>
    obtain ⟨other, ids⟩ := first
    rw [List.map_cons, List.lookup_cons, List.lookup_cons]
    cases hid : id == other with
    | true => simp [eq_of_beq hid]
    | false => exact ih

theorem exists_lookup {index : ShoulderIndex} {id : Int} (h : id ∈ index.keys) :
    ∃ ids, index.lookup id = some ids := by
  obtain ⟨e, he, rfl⟩ := List.mem_map.1 h
  exact Option.isSome_iff_exists.1 (List.lookup_isSome_iff.2 ⟨e, he, by simp⟩)

theorem beside_of_mem {index : ShoulderIndex} (hkeys : index.keys.Nodup) {entry : Int × List Int}
    (h : entry ∈ index) : index.beside entry.1 = entry.2 := by
  induction index with
  | nil => cases h
  | cons first index ih =>
    obtain ⟨hfresh, hrest⟩ := List.nodup_cons.1 hkeys
    rw [beside, List.lookup_cons]
    rcases List.mem_cons.1 h with rfl | h
    · simp
    · have hne : (entry.1 == first.1) = false := by
        simp only [beq_eq_false_iff_ne]
        exact ne_of_mem_of_not_mem (List.mem_map_of_mem h) hfresh
      rw [hne]
      exact ih hrest h

theorem exists_enter {index : ShoulderIndex} {entry : Int × Int} (h : entry.1 ∈ index.keys) :
    ∃ next, index.enter entry = .ok next ∧ next.keys = index.keys ∧
      ∀ id ∈ index.keys, next.beside id = appendAll (index.beside id) (entered id [entry]) := by
  refine ⟨_, if_pos h, ?_, ?_⟩
  · rw [keys, List.map_map]
    rfl
  · intro id hid
    obtain ⟨ids, hids⟩ := exists_lookup hid
    have hlookup := lookup_map_snd
      (fun other ids => if other = entry.1 then appendNew entry.2 ids else ids) index id
    simp only [beside, hlookup, hids]
    by_cases he : entry.1 = id
    · simp [entered, appendAll, he]
    · simp [entered, appendAll, he, Ne.symm he]

theorem foldlM_enter {entries : List (Int × Int)} {index : ShoulderIndex}
    (h : ∀ entry ∈ entries, entry.1 ∈ index.keys) :
    ∃ filled, entries.foldlM enter index = .ok filled ∧ filled.keys = index.keys ∧
      ∀ id ∈ index.keys, filled.beside id = appendAll (index.beside id) (entered id entries) := by
  induction entries generalizing index with
  | nil => exact ⟨index, rfl, rfl, fun _ _ => rfl⟩
  | cons entry entries ih =>
    obtain ⟨next, hnext, hkeys, hbeside⟩ := exists_enter (h entry (by simp))
    have hknown : ∀ other ∈ entries, other.1 ∈ next.keys := by
      intro other hother
      rw [hkeys]
      exact h other (by simp [hother])
    obtain ⟨filled, hfilled, hkeys', hbeside'⟩ := ih hknown
    refine ⟨filled, ?_, hkeys'.trans hkeys, ?_⟩
    · rw [List.foldlM_cons]
      exact Fallible.bind_eq_ok.2 ⟨next, hnext, hfilled⟩
    · intro id hid
      rw [hbeside' id (hkeys ▸ hid), hbeside id hid, ← appendAll_append, ← entered_append]
      rfl

end ShoulderIndex

namespace RoadNetwork

variable {α : Type}

/-! ## The index of a network -/

def entriesNaming (shoulders : List (Segment α)) : List (Int × Int) :=
  shoulders.flatMap fun t => t.neighbors.map (·, t.id)

def entriesNamed (segments : List (Segment α)) : List (Int × Int) :=
  segments.flatMap fun s => s.neighbors.map (s.id, ·)

def enterNamed (net : RoadNetwork α) (index : ShoulderIndex) (entry : Int × Int) :
    Except Fault ShoulderIndex := do
  if (← net.segment entry.2).isShoulder then index.enter entry else return index

/-- Fill the index: the shoulders in ascending order, then the segments in the given order. -/
def indexShoulders (net : RoadNetwork α) (given : List (Segment α)) :
    Except Fault ShoulderIndex := do
  let index ← (entriesNaming net.shoulders).foldlM ShoulderIndex.enter (.blank net.ids)
  (entriesNamed given).foldlM net.enterNamed index

def seekShoulders (net : RoadNetwork α) (index : ShoulderIndex) (id : Int) :
    Except Fault (List (Segment α)) :=
  (index.beside id).mapM net.segment

theorem foldlM_enterNamed {net : RoadNetwork α} {entries : List (Int × Int)}
    (h : ∀ entry ∈ entries, entry.2 ∈ net.ids) (index : ShoulderIndex) :
    entries.foldlM net.enterNamed index =
      (entries.filter fun entry => net.isShoulder entry.2).foldlM ShoulderIndex.enter index := by
  induction entries generalizing index with
  | nil => rfl
  | cons entry entries ih =>
    obtain ⟨s, hs⟩ := mem_ids_iff.1 (h entry (by simp))
    have hshoulder : net.isShoulder entry.2 = s.isShoulder := by simp [isShoulder, hs]
    have hrest := ih fun other hother => h other (by simp [hother])
    rw [List.foldlM_cons, List.filter_cons, hshoulder, enterNamed, segment_eq_ok.2 hs]
    by_cases hkind : s.isShoulder = true
    · simp [hkind, hrest, bind, Except.bind]
    · simp [hkind, hrest, bind, Except.bind, pure, Except.pure]

theorem appendAll_naming {shoulders : List (Segment α)} {ids : List Int} (id : Int)
    (h : (ids ++ shoulders.map (·.id)).Nodup) :
    ShoulderIndex.appendAll ids (ShoulderIndex.entered id (entriesNaming shoulders)) =
      ids ++ (shoulders.filter fun t => id ∈ t.neighbors).map (·.id) := by
  induction shoulders generalizing ids with
  | nil => simp [entriesNaming, ShoulderIndex.entered, ShoulderIndex.appendAll]
  | cons t shoulders ih =>
    have hfirst : ShoulderIndex.entered id (t.neighbors.map (·, t.id)) =
        (t.neighbors.filter (· = id)).map fun _ => t.id := by
      simp [ShoulderIndex.entered, List.filter_map, Function.comp_def]
    have hsplit : entriesNaming (t :: shoulders) =
        t.neighbors.map (·, t.id) ++ entriesNaming shoulders := rfl
    rw [hsplit, ShoulderIndex.entered_append, hfirst, ShoulderIndex.appendAll_append]
    obtain ⟨hfresh, hrest⟩ := List.nodup_cons.1 (List.nodup_middle.1 h)
    have hnew : t.id ∉ ids := fun hmem => hfresh (List.mem_append_left _ hmem)
    by_cases hid : id ∈ t.neighbors
    · have hsome : t.neighbors.filter (· = id) ≠ [] :=
        List.ne_nil_of_mem (List.mem_filter.2 ⟨hid, by simp⟩)
      rw [ShoulderIndex.appendAll_const _ _ hsome, appendNew, if_neg hnew, ih (by simpa using h)]
      simp [hid]
    · have hnone : t.neighbors.filter (· = id) = [] := by
        apply List.filter_eq_nil_iff.2
        intro n hn
        simpa using ne_of_mem_of_not_mem hn hid
      have hsame : ShoulderIndex.appendAll ids [] = ids := rfl
      rw [hnone, List.map_nil, hsame, ih hrest, List.filter_cons, if_neg (by simpa using hid)]

theorem entered_named {segments : List (Segment α)} (hids : (segments.map (·.id)).Nodup)
    {s : Segment α} (hs : s ∈ segments) :
    ShoulderIndex.entered s.id (entriesNamed segments) = s.neighbors := by
  have hone : ∀ a : Segment α, ShoulderIndex.entered s.id (a.neighbors.map (a.id, ·)) =
      if a.id = s.id then a.neighbors else [] := by
    intro a
    by_cases ha : a.id = s.id <;>
      simp [ShoulderIndex.entered, List.filter_map, Function.comp_def, ha]
  have hnone : ∀ others : List (Segment α), s.id ∉ others.map (·.id) →
      ShoulderIndex.entered s.id (entriesNamed others) = [] := by
    intro others hothers
    induction others with
    | nil => rfl
    | cons a others ih =>
      simp only [List.map_cons, List.mem_cons, not_or] at hothers
      have hsplit : entriesNamed (a :: others) =
          a.neighbors.map (a.id, ·) ++ entriesNamed others := rfl
      rw [hsplit, ShoulderIndex.entered_append, hone, if_neg (Ne.symm hothers.1), ih hothers.2]
      rfl
  induction segments with
  | nil => cases hs
  | cons a segments ih =>
    have hsplit : entriesNamed (a :: segments) =
        a.neighbors.map (a.id, ·) ++ entriesNamed segments := rfl
    rw [hsplit, ShoulderIndex.entered_append, hone]
    obtain ⟨hfresh, hrest⟩ := List.nodup_cons.1 hids
    rcases List.mem_cons.1 hs with rfl | hs
    · rw [if_pos rfl, hnone segments hfresh, List.append_nil]
    · have hne : a.id ≠ s.id := by
        intro he
        exact hfresh (List.mem_map.2 ⟨s, hs, he.symm⟩)
      rw [if_neg hne, List.nil_append, ih hrest hs]

/-! ## What the index has -/

section Closed

variable {net : RoadNetwork α}

theorem map_id_filterMap {ids : List Int} (h : ∀ id ∈ ids, id ∈ net.ids) :
    (ids.filterMap net.segment?).map (·.id) = ids := by
  induction ids with
  | nil => rfl
  | cons id ids ih =>
    obtain ⟨s, hs⟩ := mem_ids_iff.1 (h id (by simp))
    have hid : s.id = id := by simpa using List.find?_some hs
    simp [hs, hid, ih fun other hother => h other (by simp [hother])]

theorem map_id_adjacentShoulders {id : Int} {s : Segment α} (hs : net.segment? id = some s) :
    (net.adjacentShoulders id).map (·.id) =
      ShoulderIndex.appendAll ((net.shoulders.filter fun t => id ∈ t.neighbors).map (·.id))
        (s.neighbors.filter net.isShoulder) := by
  have hknown : ∀ n ∈ (s.neighbors.filter fun n => net.isShoulder n &&
      decide (n ∉ (net.shoulders.filter fun t => id ∈ t.neighbors).map (·.id))).eraseDups,
      n ∈ net.ids := by
    intro n hn
    have hmem := (List.mem_filter.1 (List.mem_eraseDups.1 hn)).2
    rw [Bool.and_eq_true, isShoulder, Option.any_eq_true] at hmem
    obtain ⟨⟨t, ht, -⟩, -⟩ := hmem
    exact mem_ids_iff.2 ⟨t, ht⟩
  rw [ShoulderIndex.appendAll_eq, List.filter_filter, adjacentShoulders, hs]
  simp only [List.map_append, map_id_filterMap hknown, Bool.and_comm]

theorem segment?_of_mem_adjacentShoulders (hids : net.ids.Nodup) {id : Int} {t : Segment α}
    (h : t ∈ net.adjacentShoulders id) : net.segment? t.id = some t := by
  unfold adjacentShoulders at h
  split at h
  next => cases h
  next s _ =>
    rcases List.mem_append.1 h with h | h
    · exact find?_of_mem hids (List.mem_filter.1 (List.mem_filter.1 h).1).1
    · obtain ⟨n, -, ht⟩ := List.mem_filterMap.1 h
      have hid : t.id = n := by simpa using List.find?_some ht
      rw [hid, ht]

theorem exists_indexShoulders (h : net.Closed) (hids : net.ids.Nodup) {given : List (Segment α)}
    (hgiven : given.Perm net.segments) :
    ∃ index, net.indexShoulders given = .ok index ∧ index.keys = net.ids ∧
      ∀ id ∈ net.ids, index.beside id = (net.adjacentShoulders id).map (·.id) := by
  have hnaming : ∀ entry ∈ entriesNaming net.shoulders,
      entry.1 ∈ (ShoulderIndex.blank net.ids).keys := by
    intro entry hentry
    obtain ⟨t, ht, hentry⟩ := List.mem_flatMap.1 hentry
    obtain ⟨n, hn, rfl⟩ := List.mem_map.1 hentry
    rw [ShoulderIndex.keys_blank]
    exact h.neighbors (List.mem_filter.1 ht).1 n hn
  obtain ⟨index, hindex, hkeys, hbeside⟩ := ShoulderIndex.foldlM_enter hnaming
  rw [ShoulderIndex.keys_blank] at hkeys hbeside
  have hnamed : ∀ entry ∈ entriesNamed given, entry.1 ∈ net.ids ∧ entry.2 ∈ net.ids := by
    intro entry hentry
    obtain ⟨s, hs, hentry⟩ := List.mem_flatMap.1 hentry
    obtain ⟨n, hn, rfl⟩ := List.mem_map.1 hentry
    have hmem := hgiven.subset hs
    exact ⟨List.mem_map_of_mem hmem, h.neighbors hmem n hn⟩
  have hkept : ∀ entry ∈ (entriesNamed given).filter fun entry => net.isShoulder entry.2,
      entry.1 ∈ index.keys := by
    intro entry hentry
    rw [hkeys]
    exact (hnamed entry (List.mem_filter.1 hentry).1).1
  obtain ⟨filled, hfilled, hkeys', hbeside'⟩ := ShoulderIndex.foldlM_enter hkept
  refine ⟨filled, ?_, hkeys'.trans hkeys, ?_⟩
  · refine Fallible.bind_eq_ok.2 ⟨index, hindex, ?_⟩
    rw [foldlM_enterNamed fun entry hentry => (hnamed entry hentry).2]
    exact hfilled
  · intro id hid
    obtain ⟨s, hs⟩ := mem_ids_iff.1 hid
    have hsid : s.id = id := by simpa using List.find?_some hs
    have hmem : s ∈ given := hgiven.symm.subset (List.mem_of_find?_eq_some hs)
    have hdistinct : (given.map (·.id)).Nodup := (hgiven.map _).nodup_iff.2 hids
    have hshoulders : (([] : List Int) ++ net.shoulders.map (·.id)).Nodup :=
      hids.sublist (List.filter_sublist.map _)
    rw [hbeside' id (hkeys.symm ▸ hid), hbeside id hid, ShoulderIndex.beside_blank,
      appendAll_naming id hshoulders, ShoulderIndex.entered_filter, ← hsid,
      entered_named hdistinct hmem, hsid, map_id_adjacentShoulders hs, List.nil_append]

theorem seekShoulders_eq (hids : net.ids.Nodup) {index : ShoulderIndex} {id : Int}
    (h : index.beside id = (net.adjacentShoulders id).map (·.id)) :
    net.seekShoulders index id = .ok (net.adjacentShoulders id) := by
  rw [seekShoulders, h, List.mapM_map]
  refine (Fallible.mapM_eq_ok fun t ht => ?_).trans (congrArg _ (List.map_id _))
  exact segment_eq_ok.2 (segment?_of_mem_adjacentShoulders hids ht)

end Closed

end RoadNetwork

end LaneRoute
