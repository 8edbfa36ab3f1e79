import LaneRoute.Geometry.Region
import LaneRoute.Network.Lateral
import LaneRoute.Network.Nearest
import LaneRoute.Number.Total

/-!
# Footprints inside lanes

Whether a footprint lies inside the lanes that lead to a segment and a chain of lanes that
follow it. Chains are followed depth first; each has its own region and length, and a chain
that has become longer than the search length is tested once more and not continued.
-/

set_option autoImplicit false

namespace LaneRoute

namespace RoadNetwork

variable {α : Type} [Planar α]

def withShoulders (net : RoadNetwork α) (s : Segment α) : List (Ring α) :=
  s.outline :: (net.adjacentShoulders s.id).map (·.outline)

/-- The region of some segments and of the shoulders beside them. -/
def combined (net : RoadNetwork α) (ids : List Int) : Except Fault (Region α) := do
  Region.ofRings ((← ids.mapM net.segment).flatMap net.withShoulders)

/-- A chain of segments: its last one, the region gathered on it, the length added after its
first segment, and how many more segments it may take. -/
structure Chain (α : Type) where
  last : Int
  region : Region α
  length : α
  budget : Nat

def Chain.extend (net : RoadNetwork α) (chain : Chain α) (budget : Nat) (s : Segment α) :
    Except Fault (Chain α) := do
  let added ← Region.ofRings (net.withShoulders s)
  return ⟨s.id, ← chain.region.unite added, chain.length + s.length, budget⟩

def Chain.holds (footprint : Ring α) (chain : Chain α) : Except Fault Bool :=
  Planar.covers chain.region footprint

def Chain.exceeds (limit : α) (chain : Chain α) : Bool := limit < chain.length

/-- What comes of following chains by one segment: a place for the footprint, or the chains
that are left to be followed. -/
inductive Followed (α : Type) where
  | found
  | left (chains : List (Chain α))

/-- Follow a chain to the segments after it, the last one first. A chain that is too long to
grow further is tested at once. -/
def Chain.followTo (net : RoadNetwork α) (limit : α) (footprint : Ring α) (chain : Chain α)
    (budget : Nat) : List (Segment α) → Except Fault (Followed α)
  | [] => .ok (.left [])
  | s :: rest => do
    match ← followTo net limit footprint chain budget rest with
    | .found => return .found
    | .left chains =>
      let longer ← chain.extend net budget s
      if !longer.exceeds limit then return .left (longer :: chains)
      else if ← longer.holds footprint then return .found
      else return .left chains

def Chain.follow (net : RoadNetwork α) (limit : α) (footprint : Ring α) (chain : Chain α) :
    Except Fault (Followed α) :=
  match chain.budget, net.segment? chain.last with
  | budget + 1, some s =>
    chain.followTo net limit footprint budget (net.roadsAmong s.successors)
  | _, _ => .ok (.left [])

/-- No segment has more successors than this. -/
def branching (net : RoadNetwork α) : Nat := total (net.segments.map (·.successors.length))

/-- An upper bound for the number of chains that can still grow from some chains. -/
def pending (net : RoadNetwork α) (chains : List (Chain α)) : Nat :=
  total (chains.map fun c => Nat.pow (net.branching + 1) c.budget)

omit [Planar α] in
theorem length_successors_le {net : RoadNetwork α} {s : Segment α} (h : s ∈ net.segments) :
    s.successors.length ≤ net.branching :=
  le_total_of_mem (List.mem_map.2 ⟨s, h, rfl⟩)

omit [Planar α] in
theorem pending_append (net : RoadNetwork α) (a b : List (Chain α)) :
    net.pending (a ++ b) = net.pending a + net.pending b := by
  simp [pending]

omit [Planar α] in
theorem pending_cons (net : RoadNetwork α) (c : Chain α) (rest : List (Chain α)) :
    net.pending (c :: rest) = Nat.pow (net.branching + 1) c.budget + net.pending rest := by
  simp [pending]

theorem budget_of_extend {net : RoadNetwork α} {chain longer : Chain α} {budget : Nat}
    {s : Segment α} (h : chain.extend net budget s = .ok longer) : longer.budget = budget := by
  unfold Chain.extend at h
  cases hr : Region.ofRings (net.withShoulders s) with
  | error e => simp [hr, bind, Except.bind] at h
  | ok added =>
    cases hu : chain.region.unite added with
    | error e => simp [hr, hu, bind, Except.bind] at h
    | ok region =>
      simp only [hr, hu, bind, Except.bind, pure, Except.pure, Except.ok.injEq] at h
      rw [← h]

theorem pending_followTo_le {net : RoadNetwork α} {limit : α} {footprint : Ring α}
    {chain : Chain α} {budget : Nat} {ss : List (Segment α)} {chains : List (Chain α)}
    (h : chain.followTo net limit footprint budget ss = .ok (.left chains)) :
    net.pending chains ≤ ss.length * Nat.pow (net.branching + 1) budget := by
  induction ss generalizing chains with
  | nil =>
    simp only [Chain.followTo, Except.ok.injEq, Followed.left.injEq] at h
    simp [← h, pending]
  | cons s rest ih =>
    simp only [Chain.followTo, bind, Except.bind, pure, Except.pure] at h
    rw [List.length_cons, Nat.succ_mul]
    split at h
    next => simp at h
    next followed hf =>
      split at h
      next => simp at h
      next before =>
        have hbefore := ih hf
        split at h
        next => simp at h
        next longer hl =>
          have hbudget := budget_of_extend hl
          split at h
          next =>
            simp only [Except.ok.injEq, Followed.left.injEq] at h
            rw [← h, pending_cons, hbudget]
            omega
          next =>
            split at h
            next => simp at h
            next =>
              split at h
              next => simp at h
              next =>
                simp only [Except.ok.injEq, Followed.left.injEq] at h
                rw [← h]
                omega

theorem pending_follow_lt {net : RoadNetwork α} {limit : α} {footprint : Ring α}
    {chain : Chain α} {chains : List (Chain α)}
    (h : chain.follow net limit footprint = .ok (.left chains)) :
    net.pending chains < Nat.pow (net.branching + 1) chain.budget := by
  unfold Chain.follow at h
  split at h
  next budget s hb hs =>
    have hlen : (net.roadsAmong s.successors).length ≤ net.branching := by
      refine Nat.le_trans ?_ (length_successors_le (List.mem_of_find?_eq_some hs))
      exact Nat.le_trans (List.length_filter_le _ _) (List.length_filterMap_le _ _)
    have hpos : 0 < Nat.pow (net.branching + 1) budget := Nat.pow_pos (by omega)
    have hmul := Nat.mul_le_mul_right (Nat.pow (net.branching + 1) budget) hlen
    have hle := pending_followTo_le h
    have hsucc : Nat.pow (net.branching + 1) (budget + 1)
        = Nat.pow (net.branching + 1) budget * (net.branching + 1) := rfl
    rw [hb, hsucc, Nat.mul_succ, Nat.mul_comm _ net.branching]
    omega
  next =>
    simp only [Except.ok.injEq, Followed.left.injEq] at h
    rw [← h, pending]
    exact Nat.pow_pos (by omega)

def anyHolds (net : RoadNetwork α) (limit : α) (footprint : Ring α) (stack : List (Chain α)) :
    Except Fault Bool :=
  match stack with
  | [] => .ok false
  | chain :: rest =>
    match chain.holds footprint with
    | .error fault => .error fault
    | .ok true => .ok true
    | .ok false =>
      match _h : chain.follow net limit footprint with
      | .error fault => .error fault
      | .ok .found => .ok true
      | .ok (.left chains) => anyHolds net limit footprint (chains ++ rest)
termination_by net.pending stack
decreasing_by
  have := pending_follow_lt ‹_›
  rw [pending_append, pending_cons]
  omega

def shortest? (net : RoadNetwork α) : Option α :=
  match net.segments.map (·.length) with
  | [] => none
  | d :: rest => some (rest.foldl (fun least d => if d < least then d else least) d)

/-- How many segments a chain can take before it is longer than the limit, and one more. A limit
that is infinite or no number is never passed: then the search is cut after as many segments as the
network has, where on lanes in a ring it would not end. -/
def chainBudget (net : RoadNetwork α) (limit : α) : Nat :=
  match net.shortest? with
  | none => 0
  | some least =>
    let ratio := limit / least
    if Scalar.isNumber ratio && Scalar.isFinite ratio then (Scalar.ceiling ratio).toNat + 2
    else net.segments.length

/-- Whether a footprint lies inside a region and the lanes that follow a segment, with the
shoulders beside them, as far as the limit. -/
def footprintFits (net : RoadNetwork α) (limit : α) (id : Int) (region : Region α)
    (footprint : Ring α) : Except Fault Bool := do
  if ← Planar.covers region footprint then return true
  else
    let s ← net.segment id
    net.anyHolds limit footprint [⟨s.id, region, 0, net.chainBudget limit⟩]

end RoadNetwork

end LaneRoute
