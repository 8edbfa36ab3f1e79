import LaneRoute.Proofs.Route.Grouping

/-!
# Returns

On a network with mutual lateral references a route has a loop exactly when its path leaves a
group of lanes and comes back to it. Two runs of one group have a run of another group between
them, and they make sections with the same lanes.
-/

set_option autoImplicit false

namespace LaneRoute.RouteSections

open RoadNetwork

variable {α : Type} {net : RoadNetwork α} {path : List Int}

/-- Some ids leave a group of lanes and come back to it. -/
def Returns (net : RoadNetwork α) (ids : List Int) : Prop :=
  ∃ (i j k : Nat) (a b c : Int), i < j ∧ j < k ∧ ids[i]? = some a ∧ ids[j]? = some b ∧ ids[k]? = some c ∧
    net.Connected a c ∧ ¬ net.Connected a b

def Rejoins (net : RoadNetwork α) (ids : List Int) : Prop :=
  ∃ (i j : Nat) (r s : List Int), i < j ∧ (runs net ids)[i]? = some r ∧ (runs net ids)[j]? = some s ∧
    ∃ a ∈ r, ∃ b ∈ s, net.Connected a b

/-! ## Places of runs -/

theorem exists_place {rs : List (List Int)} {index : Nat} {run : List Int} {id : Int}
    (hrun : rs[index]? = some run) (hid : id ∈ run) :
    ∃ place, rs.flatten[place]? = some id ∧ runIndex rs place = index := by
  induction rs generalizing index with
  | nil => simp at hrun
  | cons first rs ih =>
    cases index with
    | zero =>
      obtain rfl : first = run := by simpa using hrun
      obtain ⟨place, hplace⟩ := List.mem_iff_getElem?.1 hid
      obtain ⟨hlt, -⟩ := List.getElem?_eq_some_iff.1 hplace
      refine ⟨place, ?_, ?_⟩
      · rw [List.flatten_cons, List.getElem?_append_left hlt, hplace]
      · exact if_pos hlt
    | succ index =>
      obtain ⟨place, hplace, hindex⟩ := ih hrun
      refine ⟨first.length + place, ?_, ?_⟩
      · simp [List.getElem?_append_right, hplace]
      · simp [runIndex, hindex]

theorem lt_of_runIndex_lt {rs : List (List Int)} {place later : Nat}
    (h : runIndex rs place < runIndex rs later) : place < later := by
  by_contra hle
  have hmono := runIndex_mono rs (Nat.le_of_not_lt hle)
  omega

theorem not_abreast_next {index : Nat} {r s : List Int} {a b : Int}
    (hr : (runs net path)[index]? = some r) (hs : (runs net path)[index + 1]? = some s)
    (ha : a ∈ r) (hb : b ∈ s) : ¬ net.Abreast a b := by
  obtain ⟨_, rfl⟩ := List.getElem?_eq_some_iff.1 hr
  obtain ⟨hlt, rfl⟩ := List.getElem?_eq_some_iff.1 hs
  exact List.isChain_iff_getElem.1 (isChain_runs net path) index hlt a ha b hb

section Mutual

variable [Scalar α] (hn : net.Accepted) (hm : net.Mutual)

include hn hm in
theorem Rejoins.gap {i j : Nat} {r s : List Int} {a b : Int}
    (h : ∀ id ∈ path, net.isRoad id = true) (hij : i < j) (hr : (runs net path)[i]? = some r)
    (hs : (runs net path)[j]? = some s) (ha : a ∈ r) (hb : b ∈ s) (hab : net.Connected a b) :
    i + 1 < j := by
  have hroad := isRoad_of_mem_runs h (List.mem_of_getElem? hr) a ha
  have habreast := abreast_of_connected hn hm hroad hab
  by_contra hle
  obtain rfl : j = i + 1 := by omega
  exact not_abreast_next hr hs ha hb habreast

include hn hm in
theorem returns_iff_rejoins (h : ∀ id ∈ path, net.isRoad id = true) :
    Returns net path ↔ Rejoins net path := by
  have hflat : (runs net path).flatten = path := List.flatten_splitBy _ path
  constructor
  · rintro ⟨i, j, k, a, b, c, hij, hjk, ha, hb, hc, hac, hab⟩
    rw [← hflat] at ha hb hc
    obtain ⟨r, hr, har⟩ := mem_runIndex ha
    obtain ⟨s, hs, hbs⟩ := mem_runIndex hb
    obtain ⟨t, ht, hct⟩ := mem_runIndex hc
    have hfirst := runIndex_mono (runs net path) hij.le
    have hsecond := runIndex_mono (runs net path) hjk.le
    refine ⟨_, _, r, t, ?_, hr, ht, a, har, c, hct, hac⟩
    by_contra hnot
    -- all three ids would be in one run, and the middle one in the group
    have hsame : runIndex (runs net path) j = runIndex (runs net path) i := by omega
    rw [hsame, hr] at hs
    obtain rfl := Option.some.inj hs
    have hrun := List.mem_of_getElem? hr
    have hroads := isRoad_of_mem_runs h hrun
    apply hab
    exact (abreast_iff_connected hn hm (hroads a har) (hroads b hbs)).1
      (abreast_of_mem_runs hrun har hbs)
  · rintro ⟨i, k, r, t, hik, hr, ht, a, ha, c, hc, hac⟩
    have hgap := Rejoins.gap hn hm h hik hr ht ha hc hac
    obtain ⟨hlt, -⟩ := List.getElem?_eq_some_iff.1 ht
    have hs : (runs net path)[i + 1]? = some (runs net path)[i + 1] :=
      List.getElem?_eq_getElem (by omega)
    obtain ⟨b, hb⟩ := List.exists_mem_of_ne_nil _
      (List.ne_nil_of_mem_splitBy (List.mem_of_getElem? hs))
    obtain ⟨first, hfirst, rfl⟩ := exists_place hr ha
    obtain ⟨middle, hmiddle, hindex⟩ := exists_place hs hb
    obtain ⟨last, hlast, rfl⟩ := exists_place ht hc
    rw [hflat] at hfirst hmiddle hlast
    have hleft : runIndex (runs net path) first < runIndex (runs net path) middle := by omega
    have hright : runIndex (runs net path) middle < runIndex (runs net path) last := by omega
    refine ⟨first, middle, last, a, b, c, lt_of_runIndex_lt hleft, lt_of_runIndex_lt hright,
      hfirst, hmiddle, hlast, hac, ?_⟩
    intro hab
    have hroad := isRoad_of_mem_runs h (List.mem_of_getElem? hr) a ha
    exact not_abreast_next hr hs ha hb (abreast_of_connected hn hm hroad hab)

/-! ## Loops -/

include hn hm in
theorem hasLoop_iff_rejoins {onRoute : List Int} {sections : List RouteSection}
    (h : ∀ id ∈ path, net.isRoad id = true)
    (hcarries : List.Forall₂ (Carries net onRoute) (runs net path) sections) :
    hasLoop sections = true ↔ Rejoins net path := by
  have hroads : ∀ {i r}, (runs net path)[i]? = some r → ∀ id ∈ r, net.isRoad id = true :=
    fun hr => isRoad_of_mem_runs h (List.mem_of_getElem? hr)
  rw [hasLoop_iff]
  constructor
  · rintro ⟨lane, i, j, hij, ⟨s, hs, hlane⟩, ⟨t, ht, hlane'⟩⟩
    obtain ⟨r, hr, hcarry⟩ := exists_of_forall₂ hcarries.flip hs
    obtain ⟨q, hq, hcarry'⟩ := exists_of_forall₂ hcarries.flip ht
    obtain ⟨a, ha, b, hb, habreast⟩ :=
      Carries.abreast hn hm hcarry hcarry' (hroads hr) (hroads hq) hlane hlane'
    refine ⟨i, j, r, q, by omega, hr, hq, a, ha, b, hb, ?_⟩
    exact (abreast_iff_connected hn hm (hroads hr a ha) (hroads hq b hb)).1 habreast
  · rintro ⟨i, j, r, q, hij, hr, hq, a, ha, b, hb, hab⟩
    have hgap := Rejoins.gap hn hm h hij hr hq ha hb hab
    obtain ⟨s, hs, hcarry⟩ := exists_of_forall₂ hcarries hr
    obtain ⟨t, ht, hcarry'⟩ := exists_of_forall₂ hcarries hq
    obtain ⟨first, hfirst, hmem⟩ := hcarry.mem_primitives (hroads hr)
    obtain ⟨other, hother, hmem'⟩ := hcarry'.mem_primitives (hroads hq)
    -- both sections hold the lanes of one group that are on the route
    have hfrom : net.Abreast other b := abreast_of_mem_runs (List.mem_of_getElem? hq) hother hb
    have hto : net.Abreast a b := abreast_of_connected hn hm (hroads hr a ha) hab
    have hlane : a ∈ net.lanes other :=
      (abreast_iff hn hm (hroads hq other hother) (hroads hr a ha)).1 (hfrom.trans hto.symm)
    have honRoute : a ∈ onRoute := ((hmem a).1 (hcarry.lanes a ha)).2
    exact ⟨a, i, j, hgap, ⟨s, hs, hcarry.lanes a ha⟩, t, ht, (hmem' a).2 ⟨hlane, honRoute⟩⟩

theorem pairwise_disjoint {sections : List RouteSection} (h : hasLoop sections = false)
    (hchain : sections.IsChain fun s t => s.primitives.Disjoint t.primitives) :
    sections.Pairwise fun s t => s.primitives.Disjoint t.primitives := by
  rw [List.pairwise_iff_getElem]
  intro i j hi hj hij lane hlane hlane'
  by_cases hnext : j = i + 1
  · subst hnext
    exact List.isChain_iff_getElem.1 hchain i hj hlane hlane'
  · have hloop : hasLoop sections = true := (hasLoop_iff sections).2
      ⟨lane, i, j, by omega, ⟨_, List.getElem?_eq_getElem hi, hlane⟩,
        _, List.getElem?_eq_getElem hj, hlane'⟩
    rw [h] at hloop
    cases hloop

theorem nodup_preferred {sections : List RouteSection}
    (hmem : ∀ s ∈ sections, s.preferred ∈ s.primitives)
    (h : sections.Pairwise fun s t => s.primitives.Disjoint t.primitives) :
    (sections.map (·.preferred)).Nodup := by
  rw [List.Nodup, List.pairwise_map]
  apply h.imp_of_mem
  intro s t hs ht hdisjoint heq
  exact hdisjoint (hmem s hs) (heq ▸ hmem t ht)

include hn hm in
/-- The sections of a path have a loop exactly when the path returns to a group that it left.
Without a loop the sections have no lane in common and prefer different lanes. -/
theorem hasLoop_iff_returns (h : ∀ id ∈ path, net.isRoad id = true) :
    ∃ sections, ofPath net path = .ok sections ∧
      (hasLoop sections = true ↔ Returns net (withoutRepeats path)) ∧
      (Returns net (withoutRepeats path) ↔ Rejoins net (withoutRepeats path)) ∧
      (hasLoop sections = false →
        (sections.Pairwise fun s t => s.primitives.Disjoint t.primitives) ∧
          (sections.map (·.preferred)).Nodup) := by
  have hroads : ∀ id ∈ withoutRepeats path, net.isRoad id = true :=
    fun id hid => h id (mem_withoutRepeats.1 hid)
  obtain ⟨onRoute, sections, -, hsections, hcarries⟩ := exists_grouped hn hm h
  have hiff := returns_iff_rejoins hn hm hroads
  refine ⟨sections, hsections, (hasLoop_iff_rejoins hn hm hroads hcarries).trans hiff.symm, hiff, ?_⟩
  intro hloop
  have hdisjoint := pairwise_disjoint hloop (isChain_disjoint hn hm hroads hcarries)
  refine ⟨hdisjoint, nodup_preferred ?_ hdisjoint⟩
  intro s hs
  obtain ⟨run, -, hcarry⟩ := exists_of_mem_forall₂ hcarries hs
  exact hcarry.preferred_mem

end Mutual

/-- Once around the ring a route comes back to its first group, though to another lane. -/
theorem ring_returns : ringNetwork.Accepted ∧ ringNetwork.Mutual ∧
    (∀ id ∈ [1, 3, 2], ringNetwork.isRoad id = true) ∧ Returns ringNetwork [1, 3, 2] ∧
    ∃ sections, ofPath ringNetwork [1, 3, 2] = .ok sections ∧ hasLoop sections = true := by
  have hroads : ∀ id ∈ [1, 3, 2], ringNetwork.isRoad id = true := by decide +kernel
  have hpath : ofPath ringNetwork [1, 3, 2] = .ok [⟨1, [1, 2]⟩, ⟨3, [3]⟩, ⟨2, [1, 2]⟩] :=
    Fallible.ok_of_toOption (by decide +kernel)
  obtain ⟨sections, hsections, hloop, -⟩ := hasLoop_iff_returns accepted_ring mutual_ring hroads
  obtain rfl := Except.ok.inj (hpath.symm.trans hsections)
  have htrue : hasLoop [⟨1, [1, 2]⟩, ⟨3, [3]⟩, ⟨2, [1, 2]⟩] = true := by decide +kernel
  exact ⟨accepted_ring, mutual_ring, hroads, hloop.1 htrue, _, hpath, htrue⟩

end LaneRoute.RouteSections
