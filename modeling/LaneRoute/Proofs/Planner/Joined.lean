import LaneRoute.Proofs.Network.Legs
import LaneRoute.Planner.Basic

/-!
# Joined paths

The paths of all legs, one after the other, without the ids that repeat the last one. A joined
path starts with the paths that were joined before, ends where the last of them ends, and is
as connected as its seams are.
-/

set_option autoImplicit false

namespace LaneRoute.Planner

/-! ## Joining -/

theorem join_cons (path : List Int) (id : Int) (ids : List Int) :
    join path (id :: ids) = join (if path.getLast? = some id then path else path ++ [id]) ids := rfl

theorem prefix_join (path ids : List Int) : path <+: join path ids := by
  induction ids generalizing path with
  | nil => exact List.prefix_rfl
  | cons id ids ih =>
    rw [join_cons]
    split
    · exact ih path
    · exact (List.prefix_append path [id]).trans (ih _)

theorem mem_join {path ids : List Int} {id : Int} (h : id ∈ join path ids) :
    id ∈ path ∨ id ∈ ids := by
  induction ids generalizing path with
  | nil => exact Or.inl h
  | cons first ids ih =>
    rw [join_cons] at h
    rcases ih h with hmem | hmem
    · split at hmem
      · exact Or.inl hmem
      · simp only [List.mem_append, List.mem_singleton] at hmem
        exact hmem.imp_right fun he => by simp [he]
    · exact Or.inr (by simp [hmem])

theorem getLast?_join {path ids : List Int} (h : ids ≠ []) :
    (join path ids).getLast? = ids.getLast? := by
  induction ids generalizing path with
  | nil => exact absurd rfl h
  | cons id ids ih =>
    rw [join_cons]
    cases ids with
    | nil =>
      rw [join, List.foldl_nil]
      split
      next hlast => exact hlast
      next => simp
    | cons next ids => rw [ih (by simp), List.getLast?_cons_cons]

theorem isChain_ne_join {path : List Int} (h : path.IsChain (· ≠ ·)) (ids : List Int) :
    (join path ids).IsChain (· ≠ ·) := by
  induction ids generalizing path with
  | nil => exact h
  | cons id ids ih =>
    rw [join_cons]
    apply ih
    split
    next => exact h
    next hlast =>
      apply h.append (List.isChain_singleton _)
      intro last hmem next hnext he
      simp only [List.head?_cons, Option.mem_def, Option.some.injEq] at hnext
      exact hlast (hmem.trans (congrArg some (he.trans hnext.symm)))

theorem isChain_ne_joined (paths : List (List Int)) {path : List Int}
    (h : path.IsChain (· ≠ ·)) : (paths.foldl join path).IsChain (· ≠ ·) := by
  induction paths generalizing path with
  | nil => exact h
  | cons ids paths ih => exact ih (isChain_ne_join h ids)

theorem mem_joined {paths : List (List Int)} {path : List Int} {id : Int}
    (h : id ∈ paths.foldl join path) : id ∈ path ∨ ∃ ids ∈ paths, id ∈ ids := by
  induction paths generalizing path with
  | nil => exact Or.inl h
  | cons ids paths ih =>
    rcases ih h with hmem | ⟨other, hother, hmem⟩
    · exact (mem_join hmem).imp_right fun hid => ⟨ids, by simp, hid⟩
    · exact Or.inr ⟨other, by simp [hother], hmem⟩

theorem join_eq_append {path ids : List Int} (hids : ids.IsChain (· ≠ ·))
    (h : ∀ id ∈ ids.head?, path.getLast? ≠ some id) : join path ids = path ++ ids := by
  induction ids generalizing path with
  | nil => simp [join]
  | cons id ids ih =>
    rw [join_cons, if_neg (h id rfl), ih (List.IsChain.tail hids), List.append_assoc,
      List.singleton_append]
    intro next hnext
    obtain ⟨ids, rfl⟩ : ∃ rest, ids = next :: rest := List.head?_eq_some_iff.1 hnext
    simpa using (List.isChain_cons_cons.1 hids).1

/-! ## Seams -/

/-- Where one path ends the next one starts or goes on by a step. -/
def Seam (R : Int → Int → Prop) (path next : List Int) : Prop :=
  ∀ last ∈ path.getLast?, ∀ first ∈ next.head?, last = first ∨ R last first

theorem isChain_join_iff {R : Int → Int → Prop} {path ids : List Int} (hids : ids.IsChain R)
    (hne : ids.IsChain (· ≠ ·)) :
    (join path ids).IsChain R ↔ path.IsChain R ∧ Seam R path ids := by
  cases ids with
  | nil => simp [join, Seam]
  | cons first rest =>
    by_cases hlast : path.getLast? = some first
    · -- the first id is left out, and the step to the second one is a step of `ids`
      have hjoin : join path (first :: rest) = path ++ rest := by
        rw [join_cons, if_pos hlast]
        apply join_eq_append hne.tail
        intro id hid
        obtain ⟨rest, rfl⟩ : ∃ more, rest = id :: more := List.head?_eq_some_iff.1 hid
        simpa [hlast] using (List.isChain_cons_cons.1 hne).1
      have hseam : Seam R path (first :: rest) := by
        intro last hmem id hid
        rw [hlast] at hmem
        exact Or.inl (Option.some.inj (hmem.symm.trans hid))
      have hstep : ∀ last ∈ path.getLast?, ∀ id ∈ rest.head?, R last id := by
        intro last hmem id hid
        obtain rfl : first = last := Option.some.inj (hlast.symm.trans hmem)
        obtain ⟨rest, rfl⟩ : ∃ more, rest = id :: more := List.head?_eq_some_iff.1 hid
        exact (List.isChain_cons_cons.1 hids).1
      rw [hjoin, List.isChain_append]
      exact ⟨fun h => ⟨h.1, hseam⟩, fun h => ⟨h.1, hids.tail, hstep⟩⟩
    · -- all ids are appended, so the path goes on by the step to the first one
      have hnew : ∀ id ∈ (first :: rest).head?, path.getLast? ≠ some id := by
        intro id hid
        exact Option.some.inj hid ▸ hlast
      rw [join_eq_append hne hnew, List.isChain_append]
      constructor
      · rintro ⟨hpath, -, hstep⟩
        exact ⟨hpath, fun last hmem id hid => Or.inr (hstep last hmem id hid)⟩
      · rintro ⟨hpath, hseam⟩
        refine ⟨hpath, hids, fun last hmem id hid => ?_⟩
        apply (hseam last hmem id hid).resolve_left
        intro he
        exact hnew id hid (hmem.trans (congrArg some he))

theorem isChain_joined_iff {R : Int → Int → Prop} {path : List Int} {paths : List (List Int)}
    (h : ∀ ids ∈ paths, ids ≠ [] ∧ ids.IsChain R ∧ ids.IsChain (· ≠ ·)) :
    (paths.foldl join path).IsChain R ↔ path.IsChain R ∧ (path :: paths).IsChain (Seam R) := by
  induction paths generalizing path with
  | nil => simp
  | cons ids paths ih =>
    obtain ⟨hnil, hids, hne⟩ := h ids (by simp)
    have hrest : (paths.foldl join (join path ids)).IsChain R ↔ _ :=
      ih fun other hother => h other (by simp [hother])
    have hseam : ∀ next, Seam R (join path ids) next ↔ Seam R ids next := by
      intro next
      rw [Seam, getLast?_join hnil, Seam]
    rw [List.foldl_cons, hrest, isChain_join_iff hids hne, List.isChain_cons_cons, and_assoc]
    refine and_congr_right fun _ => and_congr_right fun _ => ?_
    simp only [List.isChain_cons, hseam]

/-! ## Places where paths end -/

theorem prefix_foldl_join (path : List Int) (paths : List (List Int)) :
    path <+: paths.foldl join path := by
  induction paths generalizing path with
  | nil => exact List.prefix_rfl
  | cons ids paths ih => exact (prefix_join path ids).trans (ih _)

theorem prefix_joined_take (paths : List (List Int)) {count more : Nat} (h : count ≤ more) :
    (paths.take count).foldl join [] <+: (paths.take more).foldl join [] := by
  obtain ⟨rest, hrest⟩ := List.take_prefix_take_left h (l := paths)
  rw [← hrest, List.foldl_append]
  exact prefix_foldl_join _ rest

def place (paths : List (List Int)) (count : Nat) : Nat :=
  ((paths.take count).foldl join []).length - 1

theorem place_mono (paths : List (List Int)) {count more : Nat} (h : count ≤ more) :
    place paths count ≤ place paths more :=
  Nat.sub_le_sub_right (prefix_joined_take paths h).length_le 1

theorem place_length (paths : List (List Int)) :
    place paths paths.length = (paths.foldl join []).length - 1 := by
  rw [place, List.take_length]

theorem getElem?_place {paths : List (List Int)} {index : Nat} {ids : List Int}
    (h : paths[index]? = some ids) (hids : ids ≠ []) :
    (paths.foldl join [])[place paths (index + 1)]? = ids.getLast? := by
  have htake : (paths.take (index + 1)).foldl join []
      = join ((paths.take index).foldl join []) ids := by
    rw [List.take_add_one, h, List.foldl_append]
    rfl
  have hpre := prefix_foldl_join ((paths.take (index + 1)).foldl join []) (paths.drop (index + 1))
  rw [← List.foldl_append, List.take_append_drop] at hpre
  have hlast : (join ((paths.take index).foldl join []) ids).getLast? = ids.getLast? :=
    getLast?_join hids
  rw [← htake] at hlast
  obtain ⟨id, hid⟩ := Option.ne_none_iff_exists'.1 fun hnone => hids (List.getLast?_eq_none_iff.1 hnone)
  rw [hid, List.getLast?_eq_getElem?] at hlast
  obtain ⟨hlt, hplace⟩ := List.getElem?_eq_some_iff.1 hlast
  rw [hid, place, List.prefix_iff_getElem?.1 hpre _ hlt, hplace]

theorem getElem?_joined_zero {paths : List (List Int)} {ids : List Int} (h : paths[0]? = some ids)
    (hids : ids.IsChain (· ≠ ·)) (hne : ids ≠ []) : (paths.foldl join [])[0]? = ids.head? := by
  cases paths with
  | nil => simp at h
  | cons first paths =>
    obtain rfl : first = ids := by simpa using h
    rw [List.foldl_cons, join_eq_append hids (by simp), List.nil_append]
    obtain ⟨id, rest, rfl⟩ := List.exists_cons_of_ne_nil hne
    obtain ⟨more, hmore⟩ := prefix_foldl_join (id :: rest) paths
    rw [← hmore]
    rfl

/-! ## Legs -/

section Scalars

variable {α : Type}

theorem length_legs (checkpoints : List (Pose α)) :
    (legs checkpoints).length = checkpoints.length - 1 := by
  fun_induction legs checkpoints with
  | case1 a b rest ih => simp [ih]
  | case2 checkpoints h =>
    rcases checkpoints with _ | ⟨a, _ | ⟨b, rest⟩⟩
    · rfl
    · rfl
    · exact absurd rfl (h a b rest)

theorem getElem?_legs {checkpoints : List (Pose α)} {index : Nat} {start goal : Pose α}
    (hstart : checkpoints[index]? = some start) (hgoal : checkpoints[index + 1]? = some goal) :
    (legs checkpoints)[index]? = some (start, goal) := by
  induction checkpoints generalizing index with
  | nil => simp at hstart
  | cons a rest ih =>
    cases rest with
    | nil => simp at hgoal
    | cons b rest =>
      cases index with
      | zero =>
        simp only [List.getElem?_cons_zero, List.getElem?_cons_succ, Option.some.injEq] at *
        simp [legs, hstart, hgoal]
      | succ index => exact ih hstart hgoal

variable [Planar α]

def Travels (net : RoadNetwork α) (avoid : Bool) (leg : Pose α × Pose α) (ids : List Int) : Prop :=
  (net.pathBetweenPoses leg.1 leg.2 avoid).result = .ok (some ids)

theorem exists_paths {net : RoadNetwork α} {avoid : Bool} {path joined : List Int}
    {legs : List (Pose α × Pose α)}
    (h : (joinedPath net avoid path legs).result = .ok (some joined)) :
    ∃ paths, List.Forall₂ (Travels net avoid) legs paths ∧ joined = paths.foldl join path := by
  induction legs generalizing path with
  | nil => exact ⟨[], .nil, (Option.some.inj (Except.ok.inj h)).symm⟩
  | cons leg legs ih =>
    rw [joinedPath, Report.result_bind] at h
    obtain ⟨found, hfound, hrest⟩ := Fallible.bind_eq_ok.1 h
    cases found with
    | none =>
      have hnone : (none : Option (List Int)) = some joined := Except.ok.inj hrest
      cases hnone
    | some ids =>
      obtain ⟨paths, hpaths, rfl⟩ := ih hrest
      exact ⟨ids :: paths, .cons hfound hpaths, rfl⟩

end Scalars

end LaneRoute.Planner
