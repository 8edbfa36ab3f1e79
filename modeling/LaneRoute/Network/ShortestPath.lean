import LaneRoute.Network.Routing
import LaneRoute.Number.Total

/-!
# Shortest paths

Search by growing cost. The frontier holds, for each node met but not yet settled, the
cheapest path found so far; the labels stand in the order in which these paths were found,
and of equally cheap ones the first is settled first.
-/

set_option autoImplicit false

namespace LaneRoute.RoutingGraph

variable {α : Type}

structure Label (α : Type) where
  node : Int
  cost : α
  trail : List Int

section Pure

variable [Scalar α]

def cheapest (best : Label α) : List (Label α) → Label α
  | [] => best
  | l :: rest => cheapest (if l.cost < best.cost then l else best) rest

theorem cheapest_mem (best : Label α) (rest : List (Label α)) :
    cheapest best rest ∈ best :: rest := by
  induction rest generalizing best with
  | nil => simp [cheapest]
  | cons l rest ih =>
    have h := ih (if l.cost < best.cost then l else best)
    simp only [cheapest, List.mem_cons] at h ⊢
    split at h <;> rename_i hc <;> simp only [hc, if_true, if_false] <;> grind

def otherLabels (frontier : List (Label α)) (id : Int) : List (Label α) :=
  frontier.filter (·.node ≠ id)

omit [Scalar α] in
theorem length_otherLabels_lt {frontier : List (Label α)} {l : Label α} (h : l ∈ frontier) :
    (otherLabels frontier l.node).length < frontier.length :=
  List.length_filter_lt_length_iff_exists.2 ⟨l, h, by simp⟩

/-- A cheaper path to a node replaces the one known so far and counts as found now. -/
def offer (frontier : List (Label α)) (new : Label α) : List (Label α) :=
  match frontier.find? (·.node = new.node) with
  | none => frontier ++ [new]
  | some old =>
    if new.cost < old.cost then otherLabels frontier new.node ++ [new] else frontier

/-- Extend a settled path by one arc. A cheaper path to a node that is settled already shows
that the weights contradict each other. -/
def relax (settled : List (Int × α)) (base : Label α) (frontier : List (Label α)) (arc : Arc α) :
    Except Fault (List (Label α)) :=
  let cost := base.cost + arc.weight
  match settled.lookup arc.target with
  | some least => if cost < least then .error .badValue else .ok frontier
  | none => .ok (offer frontier ⟨arc.target, cost, arc.target :: base.trail⟩)

def arcsOf? (g : RoutingGraph α) (id : Int) : Option (List (Arc α)) :=
  (g.find? (·.1 = id)).map Prod.snd

def without (g : RoutingGraph α) (id : Int) : RoutingGraph α := g.filter (·.1 ≠ id)

def size (g : RoutingGraph α) : Nat := total (g.map fun n => n.2.length + 1)

omit [Scalar α] in
theorem size_cons (n : Int × List (Arc α)) (g : RoutingGraph α) :
    size (n :: g) = n.2.length + 1 + g.size := by
  simp [size]

omit [Scalar α] in
theorem without_cons (n : Int × List (Arc α)) (g : RoutingGraph α) (id : Int) :
    without (n :: g) id = if n.1 = id then g.without id else n :: g.without id := by
  by_cases hn : n.1 = id <;> simp [without, hn]

omit [Scalar α] in
theorem size_without_le (g : RoutingGraph α) (id : Int) : (g.without id).size ≤ g.size := by
  induction g with
  | nil => exact Nat.le_refl _
  | cons n rest ih =>
    rw [without_cons]
    split
    · rw [size_cons]
      omega
    · rw [size_cons, size_cons]
      omega

omit [Scalar α] in
theorem size_without_lt {g : RoutingGraph α} {id : Int} {arcs : List (Arc α)}
    (h : g.arcsOf? id = some arcs) : (g.without id).size + arcs.length < g.size := by
  induction g with
  | nil => simp [arcsOf?] at h
  | cons n rest ih =>
    rw [without_cons, size_cons]
    by_cases hn : n.1 = id
    · have hle := size_without_le rest id
      have harcs : n.2 = arcs := by simpa [arcsOf?, hn] using h
      rw [if_pos hn, harcs]
      omega
    · have hlt := ih (by simpa [arcsOf?, hn] using h)
      rw [if_neg hn, size_cons]
      omega

theorem length_offer_le (frontier : List (Label α)) (new : Label α) :
    (offer frontier new).length ≤ frontier.length + 1 := by
  have hle : (otherLabels frontier new.node).length ≤ frontier.length :=
    List.length_filter_le _ _
  unfold offer
  split
  · simp
  · split
    · simpa using hle
    · omega

theorem length_relax_le {settled : List (Int × α)} {base : Label α}
    {frontier next : List (Label α)} {arc : Arc α} (h : relax settled base frontier arc = .ok next) :
    next.length ≤ frontier.length + 1 := by
  simp only [relax] at h
  split at h
  · split at h
    · simp at h
    · cases h
      omega
  · cases h
    exact length_offer_le _ _

theorem length_spread_le {settled : List (Int × α)} {base : Label α} {arcs : List (Arc α)}
    {frontier next : List (Label α)} (h : arcs.foldlM (relax settled base) frontier = .ok next) :
    next.length ≤ frontier.length + arcs.length := by
  induction arcs generalizing frontier with
  | nil =>
    simp only [List.foldlM_nil, pure, Except.pure, Except.ok.injEq] at h
    simp [h]
  | cons arc rest ih =>
    simp only [List.foldlM_cons, bind, Except.bind] at h
    split at h
    · simp at h
    next mid hmid =>
      have hle := length_relax_le hmid
      have hrest := ih h
      simp only [List.length_cons]
      omega

/-- Settle the cheapest label until the goal is settled or nothing is left. The nodes not yet
settled stand with their arcs in `remaining`. -/
def search (goal : Int) (remaining : RoutingGraph α) (settled : List (Int × α))
    (frontier : List (Label α)) : Except Fault (Option (Label α)) :=
  match frontier with
  | [] => .ok none
  | first :: rest =>
    let least := cheapest first rest
    let others := otherLabels (first :: rest) least.node
    if least.node = goal then .ok (some least)
    else
      match _found : remaining.arcsOf? least.node with
      | none => search goal remaining settled others
      | some arcs =>
        let settled := (least.node, least.cost) :: settled
        match _spread : arcs.foldlM (relax settled least) others with
        | .error fault => .error fault
        | .ok frontier => search goal (remaining.without least.node) settled frontier
termination_by remaining.size + frontier.length
decreasing_by
  all_goals
    have hless := length_otherLabels_lt (cheapest_mem first rest)
  · omega
  · have hsize : (remaining.without (cheapest first rest).node).size + arcs.length
        < remaining.size := size_without_lt _found
    have hspread : frontier.length
        ≤ (otherLabels (first :: rest) (cheapest first rest).node).length + arcs.length :=
      length_spread_le _spread
    omega

def shortestPath (g : RoutingGraph α) (start goal : Int) :
    Except Fault (Option (α × List Int)) :=
  if start ∉ g.nodes then .ok none
  else if start = goal then .ok (some (0, [start]))
  else (search goal g [] [⟨start, 0, [start]⟩]).map fun found =>
    found.map fun l => (l.cost, l.trail.reverse)

end Pure

end LaneRoute.RoutingGraph
