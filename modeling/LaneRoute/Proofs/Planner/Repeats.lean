import LaneRoute.Proofs.Planner.Joined
import LaneRoute.Proofs.Route.Openings

/-!
# Repeats at seams

Ids that repeat their predecessor are left out twice: when the paths of the legs are joined, one id
after the other and across the seams, and from a whole path when it is folded into sections. Both
are one rule, so of a joined path the second removal leaves out nothing. The steps of a path from an
id to another one stay, in their order.
-/

set_option autoImplicit false

namespace LaneRoute

namespace RouteSections

def adjacent (ids : List Int) : List (Int × Int) := ids.zip ids.tail

theorem adjacent_cons_cons (a b : Int) (rest : List Int) :
    adjacent (a :: b :: rest) = (a, b) :: adjacent (b :: rest) := rfl

theorem head?_withoutRepeats (ids : List Int) : (withoutRepeats ids).head? = ids.head? := by
  fun_induction withoutRepeats ids with
  | case1 a rest ih => exact ih
  | case2 => rfl
  | case3 => rfl

theorem adjacent_withoutRepeats (ids : List Int) :
    adjacent (withoutRepeats ids) = (adjacent ids).filter fun e => e.1 ≠ e.2 := by
  fun_induction withoutRepeats ids with
  | case1 a rest ih => rw [ih, adjacent_cons_cons, List.filter_cons_of_neg (by simp)]
  | case2 a b rest hne ih =>
    obtain ⟨more, hmore⟩ := List.head?_eq_some_iff.1 (head?_withoutRepeats (b :: rest))
    rw [hmore] at ih
    rw [hmore, adjacent_cons_cons, ih, adjacent_cons_cons, List.filter_cons_of_pos (by simpa)]
  | case3 ids hshort =>
    rcases ids with _ | ⟨a, _ | ⟨b, rest⟩⟩
    · rfl
    · rfl
    · exact absurd rfl (hshort a b rest)

end RouteSections

namespace Planner

open RouteSections

/-! ## Joined paths without repeats -/

theorem join_withoutRepeats (path ids : List Int) :
    join (withoutRepeats path) ids = withoutRepeats (path ++ ids) := by
  induction ids generalizing path with
  | nil => simp [join]
  | cons id ids ih =>
    rw [join_cons, getLast?_withoutRepeats, ← withoutRepeats_concat, ih, List.append_assoc,
      List.singleton_append]

/-- The paths that were joined before are like one path, wherever its legs ended. -/
theorem joined_withoutRepeats (path : List Int) (paths : List (List Int)) :
    paths.foldl join (withoutRepeats path) = withoutRepeats (path ++ paths.flatten) := by
  induction paths generalizing path with
  | nil => simp
  | cons ids paths ih =>
    rw [List.foldl_cons, join_withoutRepeats, ih, List.flatten_cons, List.append_assoc]

theorem isChain_ne_withoutRepeats (ids : List Int) : (withoutRepeats ids).IsChain (· ≠ ·) := by
  have hjoin : join [] ids = withoutRepeats ids := join_withoutRepeats [] ids
  rw [← hjoin]
  exact isChain_ne_join List.isChain_nil ids

variable {α : Type} [Planar α] {net : RoadNetwork α} {avoid : Bool}

theorem joinedPath_of_travels {legs : List (Pose α × Pose α)} {paths : List (List Int)}
    (h : List.Forall₂ (Travels net avoid) legs paths) (path : List Int) :
    (joinedPath net avoid path legs).result = .ok (some (paths.foldl join path)) := by
  induction h generalizing path with
  | nil => rfl
  | cons hleg _ ih =>
    rw [joinedPath, Report.result_bind]
    exact Fallible.bind_eq_ok.2 ⟨_, hleg, ih _⟩

/-- Paths of any number of legs are joined to what they are one after the other without ids that
repeat their predecessor, and so the path of a plan comes about; the removal that precedes the
sections leaves it as it is. What this removal makes of any ids has no two equal neighbors, begins
and ends like them, goes through the same steps between different ids in the same order, and is
left as it is by another removal. -/
theorem joinedPath_removes_repeats (net : RoadNetwork α) (avoid : Bool) :
    (∀ paths : List (List Int), paths.foldl join [] = withoutRepeats paths.flatten ∧
      withoutRepeats (paths.foldl join []) = paths.foldl join []) ∧
    (∀ legs path, (joinedPath net avoid [] legs).result = .ok (some path) ↔
      ∃ paths, List.Forall₂ (Travels net avoid) legs paths ∧
        path = withoutRepeats paths.flatten) ∧
    ∀ ids, (withoutRepeats ids).IsChain (· ≠ ·) ∧
      (withoutRepeats ids).head? = ids.head? ∧
      (withoutRepeats ids).getLast? = ids.getLast? ∧
      adjacent (withoutRepeats ids) = (adjacent ids).filter (fun e => e.1 ≠ e.2) ∧
      withoutRepeats (withoutRepeats ids) = withoutRepeats ids := by
  have hjoined : ∀ paths : List (List Int), paths.foldl join [] = withoutRepeats paths.flatten :=
    joined_withoutRepeats []
  have hagain : ∀ ids, withoutRepeats (withoutRepeats ids) = withoutRepeats ids :=
    fun ids => withoutRepeats_of_isChain (isChain_ne_withoutRepeats ids)
  refine ⟨fun paths => ⟨hjoined paths, ?_⟩, fun legs path => ⟨fun h => ?_, ?_⟩, fun ids => ?_⟩
  · rw [hjoined, hagain]
  · obtain ⟨paths, hpaths, rfl⟩ := exists_paths h
    exact ⟨paths, hpaths, hjoined paths⟩
  · rintro ⟨paths, hpaths, rfl⟩
    rw [joinedPath_of_travels hpaths, hjoined]
  · exact ⟨isChain_ne_withoutRepeats ids, head?_withoutRepeats ids, getLast?_withoutRepeats ids,
      adjacent_withoutRepeats ids, hagain ids⟩

/-- An id that comes back later is no repeat. -/
example : [[1, 1, 2, 2], [2, 3], [3, 1]].foldl join [] = [1, 2, 3, 1] := by decide

end Planner

end LaneRoute
