import Mathlib.Data.List.Chain
import Mathlib.Logic.Relation
import LaneRoute.Proofs.Goal.Chains

/-!
# Turns of the search

The search for room as the loop that it is. A turn takes up a segment after the frame that was
popped last or, when none is left, pops another frame; no count goes down with it, and a ring
of lanes is entered again and again. What runs out is the length that a frame can still take:
a frame stands for a chain with a budget, and a turn uses up a part of what these budgets allow.
-/

set_option autoImplicit false

namespace LaneRoute.RoadNetwork

variable {α : Type} [Planar α]

/-! ## The loop -/

/-- What is kept of a chain: its last segment, the region gathered on it and the length added
after its first segment. -/
structure Frame (α : Type) where
  last : Int
  region : Region α
  length : α

namespace Frame

def extend (net : RoadNetwork α) (frame : Frame α) (s : Segment α) : Except Fault (Frame α) := do
  let added ← Region.ofRings (net.withShoulders s)
  return ⟨s.id, ← frame.region.unite added, frame.length + s.length⟩

def holds (footprint : Ring α) (frame : Frame α) : Except Fault Bool :=
  Planar.covers frame.region footprint

def exceeds (limit : α) (frame : Frame α) : Bool := limit < frame.length

end Frame

/-- Where the loop stands: the segments that are due, each with the frame it comes after, and
the frames on the stack. -/
structure Search (α : Type) where
  due : List (Frame α × Segment α)
  stack : List (Frame α)

namespace Search

/-- One turn of the loop: an answer, or where the loop stands then. The last successor of a
popped frame is due first, so that the first one ends on top of the stack. -/
def step (net : RoadNetwork α) (limit : α) (footprint : Ring α) (search : Search α) :
    Except Fault (Bool ⊕ Search α) :=
  match search.due, search.stack with
  | (frame, s) :: due, stack => do
    let longer ← frame.extend net s
    if !longer.exceeds limit then return .inr ⟨due, longer :: stack⟩
    else if ← longer.holds footprint then return .inl true
    else return .inr ⟨due, stack⟩
  | [], frame :: rest => do
    if ← frame.holds footprint then return .inl true
    else
      let following ← net.successorRoads frame.last
      return .inr ⟨(following.map (frame, ·)).reverse, rest⟩
  | [], [] => .ok (.inl false)

def answer? (net : RoadNetwork α) (limit : α) (footprint : Ring α) :
    Nat → Search α → Option (Except Fault Bool)
  | 0, _ => none
  | turns + 1, search =>
    match search.step net limit footprint with
    | .error fault => some (.error fault)
    | .ok (.inl found) => some (.ok found)
    | .ok (.inr next) => answer? net limit footprint turns next

def start (id : Int) (region : Region α) : Search α := ⟨[], [⟨id, region, 0⟩]⟩

def Reaches (net : RoadNetwork α) (limit : α) (footprint : Ring α) :
    Search α → Search α → Prop :=
  Relation.ReflTransGen fun search next => search.step net limit footprint = .ok (.inr next)

def Pushes (net : RoadNetwork α) (limit : α) (footprint : Ring α) (search : Search α)
    (frame : Frame α) : Prop :=
  ∃ next, search.step net limit footprint = .ok (.inr next) ∧ next.stack = frame :: search.stack

theorem step_cases {net : RoadNetwork α} {limit : α} {footprint : Ring α}
    {search next : Search α} (h : search.step net limit footprint = .ok (.inr next)) :
    (∃ frame rest following, search = ⟨[], frame :: rest⟩ ∧
      net.successorRoads frame.last = .ok following ∧
      next = ⟨(following.map (frame, ·)).reverse, rest⟩) ∨
    ∃ frame s due longer, search.due = (frame, s) :: due ∧ frame.extend net s = .ok longer ∧
      (longer.exceeds limit = false ∧ next = ⟨due, longer :: search.stack⟩ ∨
        next = ⟨due, search.stack⟩) := by
  obtain ⟨due, stack⟩ := search
  cases due with
  | nil =>
    cases stack with
    | nil => cases h
    | cons frame rest =>
      left
      obtain ⟨inside, -, h⟩ := Fallible.bind_eq_ok.1 h
      cases inside with
      | true => cases h
      | false =>
        obtain ⟨following, hfollowing, h⟩ := Fallible.bind_eq_ok.1 h
        cases h
        exact ⟨frame, rest, following, rfl, hfollowing, rfl⟩
  | cons pair due =>
    right
    obtain ⟨frame, s⟩ := pair
    obtain ⟨longer, hlonger, h⟩ := Fallible.bind_eq_ok.1 h
    refine ⟨frame, s, due, longer, rfl, hlonger, ?_⟩
    by_cases hlong : longer.exceeds limit = true
    · right
      simp only [hlong, Bool.not_true, Bool.false_eq_true, if_false] at h
      obtain ⟨inside, -, h⟩ := Fallible.bind_eq_ok.1 h
      cases inside with
      | true => cases h
      | false =>
        cases h
        rfl
    · left
      simp only [hlong, Bool.not_false, if_true] at h
      cases h
      exact ⟨by simpa using hlong, rfl⟩

end Search

/-! ## Frames and chains -/

def Chain.frame (chain : Chain α) : Frame α := ⟨chain.last, chain.region, chain.length⟩

theorem Frame.eq_of_extend {net : RoadNetwork α} {frame longer : Frame α} {s : Segment α}
    (h : frame.extend net s = .ok longer) :
    ∃ region, longer = ⟨s.id, region, frame.length + s.length⟩ := by
  obtain ⟨_, -, h⟩ := Fallible.bind_eq_ok.1 h
  obtain ⟨region, -, h⟩ := Fallible.bind_eq_ok.1 h
  exact ⟨region, (Fallible.pure_eq_ok.1 h).symm⟩

section Loop

variable {net : RoadNetwork α} {limit : α} {footprint : Ring α}

theorem extend_frame (chain : Chain α) (budget : Nat) (s : Segment α) :
    chain.frame.extend net s = (chain.extend net budget s).map Chain.frame := by
  unfold Frame.extend Chain.extend
  cases hadded : Region.ofRings (net.withShoulders s) with
  | error fault => rfl
  | ok added =>
    cases hregion : chain.region.unite added with
    | error fault => simp [Chain.frame, hregion, bind, Except.bind, Except.map]
    | ok region => simp [Chain.frame, hregion, bind, Except.bind, Except.map, pure, Except.pure]

theorem answer?_followTo (net : RoadNetwork α) (limit : α) (footprint : Ring α)
    (chain : Chain α) (budget : Nat) (ss : List (Segment α))
    (due : List (Frame α × Segment α)) (stack : List (Frame α)) (turns : Nat) :
    Search.answer? net limit footprint (turns + ss.length)
        ⟨(ss.map (chain.frame, ·)).reverse ++ due, stack⟩ =
      match chain.followTo net limit footprint budget ss with
      | .error fault => some (.error fault)
      | .ok .found => some (.ok true)
      | .ok (.left chains) =>
        Search.answer? net limit footprint turns ⟨due, chains.map Chain.frame ++ stack⟩ := by
  -- the first segment is taken up after all others, so that it is one of those due to them
  induction ss generalizing due turns with
  | nil => simp [Chain.followTo]
  | cons s rest ih =>
    have hturns : turns + (s :: rest).length = turns + 1 + rest.length := by
      rw [List.length_cons]
      omega
    rw [hturns, List.map_cons, List.reverse_cons, List.append_assoc, List.singleton_append, ih]
    cases hrest : chain.followTo net limit footprint budget rest with
    | error fault => simp [Chain.followTo, hrest, bind, Except.bind]
    | ok followed =>
      cases followed with
      | found => simp [Chain.followTo, hrest, bind, Except.bind, pure, Except.pure]
      | left chains =>
        simp only [Search.answer?, Search.step, Chain.followTo, hrest, bind, Except.bind,
          extend_frame chain budget s]
        cases hlonger : chain.extend net budget s with
        | error fault => rfl
        | ok longer =>
          have hexceeds : longer.frame.exceeds limit = longer.exceeds limit := rfl
          have hholds : longer.frame.holds footprint = longer.holds footprint := rfl
          simp only [Except.map, hexceeds, hholds]
          by_cases hlong : longer.exceeds limit = true
          · cases hheld : longer.holds footprint with
            | error fault => simp [hlong]
            | ok inside => cases inside <;> simp [hlong, pure, Except.pure]
          · simp [hlong, pure, Except.pure]

/-! ## Enough turns -/

def turnsFor (net : RoadNetwork α) (stack : List (Chain α)) : Nat :=
  (net.branching + 1) * net.pending stack + 1

omit [Planar α] in
theorem branching_lt_turnsFor (chain : Chain α) (rest : List (Chain α)) :
    net.branching + 1 < net.turnsFor (chain :: rest) := by
  have hpos : 0 < net.pending (chain :: rest) := by
    rw [pending_cons]
    exact Nat.add_pos_left (Nat.pow_pos (Nat.succ_pos _)) _
  have hmul := Nat.mul_le_mul_left (net.branching + 1) hpos
  unfold turnsFor
  omega

theorem turnsFor_left {chain : Chain α} {chains : List (Chain α)} (rest : List (Chain α))
    (h : chain.follow net limit footprint = .ok (.left chains)) :
    net.turnsFor (chains ++ rest) + (net.branching + 1) ≤ net.turnsFor (chain :: rest) := by
  have hpending : net.pending (chains ++ rest) + 1 ≤ net.pending (chain :: rest) := by
    have hlt := pending_follow_lt h
    rw [pending_append, pending_cons]
    omega
  have hmul := Nat.mul_le_mul_left (net.branching + 1) hpending
  rw [Nat.mul_succ] at hmul
  unfold turnsFor
  omega

theorem anyHolds_of_not_held {chain : Chain α} (rest : List (Chain α))
    (hheld : chain.holds footprint = .ok false) :
    net.anyHolds limit footprint (chain :: rest) =
      match chain.follow net limit footprint with
      | .error fault => .error fault
      | .ok .found => .ok true
      | .ok (.left chains) => net.anyHolds limit footprint (chains ++ rest) := by
  rw [anyHolds, hheld]
  dsimp only
  split <;> simp_all

theorem answer?_of_held {chain : Chain α} (rest : List (Chain α)) (turns : Nat)
    (h : chain.holds footprint ≠ .ok false) :
    Search.answer? net limit footprint (turns + 1) ⟨[], (chain :: rest).map Chain.frame⟩ =
      some (net.anyHolds limit footprint (chain :: rest)) := by
  have hframe : chain.frame.holds footprint = chain.holds footprint := rfl
  cases hheld : chain.holds footprint with
  | error fault => simp [Search.answer?, Search.step, anyHolds, hframe, hheld, bind, Except.bind]
  | ok inside =>
    cases inside with
    | true =>
      simp [Search.answer?, Search.step, anyHolds, hframe, hheld, bind, Except.bind, pure,
        Except.pure]
    | false => exact absurd hheld h

theorem extend_of_mem_left {chain longer : Chain α} {budget : Nat} {ss : List (Segment α)}
    {chains : List (Chain α)}
    (h : chain.followTo net limit footprint budget ss = .ok (.left chains))
    (hlonger : longer ∈ chains) :
    ∃ s ∈ ss, chain.extend net budget s = .ok longer ∧ longer.exceeds limit = false := by
  induction ss generalizing chains with
  | nil =>
    cases h
    cases hlonger
  | cons s rest ih =>
    obtain ⟨followed, hrest, h⟩ := Fallible.bind_eq_ok.1 h
    cases followed with
    | found => cases h
    | left before =>
      have hbefore : longer ∈ before → ∃ t ∈ s :: rest,
          chain.extend net budget t = .ok longer ∧ longer.exceeds limit = false := by
        intro hmem
        obtain ⟨t, ht, hextend⟩ := ih hrest hmem
        exact ⟨t, List.mem_cons_of_mem s ht, hextend⟩
      obtain ⟨grown, hgrown, h⟩ := Fallible.bind_eq_ok.1 h
      by_cases hlong : grown.exceeds limit = true
      · rw [hlong] at h
        obtain ⟨inside, -, h⟩ := Fallible.bind_eq_ok.1 h
        cases inside with
        | true => cases h
        | false =>
          cases h
          exact hbefore hlonger
      · rw [Bool.not_eq_true] at hlong
        rw [hlong] at h
        cases h
        rcases List.mem_cons.1 hlonger with rfl | hmem
        · exact ⟨s, by simp, hgrown, hlong⟩
        · exact hbefore hmem

end Loop

section Ends

variable [ExactQuotients α]

/-- What is known of every chain on the stack: it is at a segment, and its budget is enough to
become too long. -/
def Ready (net : RoadNetwork α) (limit least : α) (chain : Chain α) : Prop :=
  (∃ s, net.segment? chain.last = some s) ∧ net.Ample limit least chain

variable {net : RoadNetwork α} {limit least : α} {footprint : Ring α}

theorem answer?_pop {chain : Chain α} (rest : List (Chain α))
    (hleast : net.shortest? = some least) (hpos : 0 < least)
    (hready : net.Ready limit least chain) (hheld : chain.holds footprint = .ok false) :
    ∃ few ≤ net.branching, ∀ turns,
      Search.answer? net limit footprint (turns + few + 1)
          ⟨[], (chain :: rest).map Chain.frame⟩ =
        match chain.follow net limit footprint with
        | .error fault => some (.error fault)
        | .ok .found => some (.ok true)
        | .ok (.left chains) =>
          Search.answer? net limit footprint turns ⟨[], (chains ++ rest).map Chain.frame⟩ := by
  obtain ⟨⟨s, hs⟩, hample⟩ := hready
  obtain ⟨budget, hbudget⟩ := Nat.exists_eq_add_of_lt (hample.budget_pos hleast hpos)
  rw [Nat.zero_add] at hbudget
  have hfew : (net.roadsAmong s.successors).length ≤ net.branching :=
    ((List.length_filter_le _ _).trans (List.length_filterMap_le _ _)).trans
      (length_successors_le (List.mem_of_find?_eq_some hs))
  refine ⟨_, hfew, ?_⟩
  intro turns
  have hfollow : chain.follow net limit footprint =
      chain.followTo net limit footprint budget (net.roadsAmong s.successors) := by
    simp only [Chain.follow, hbudget, hs]
  have hstep : Search.step net limit footprint ⟨[], (chain :: rest).map Chain.frame⟩ =
      .ok (.inr ⟨((net.roadsAmong s.successors).map (chain.frame, ·)).reverse,
        rest.map Chain.frame⟩) := by
    have hfollowing : net.successorRoads chain.frame.last =
        .ok (net.roadsAmong s.successors) := by
      simp [successorRoads, segment, Chain.frame, hs, Except.map]
    exact Fallible.bind_eq_ok.2 ⟨false, hheld, Fallible.bind_eq_ok.2 ⟨_, hfollowing, rfl⟩⟩
  have htaken := answer?_followTo net limit footprint chain budget (net.roadsAmong s.successors)
    [] (rest.map Chain.frame) turns
  rw [List.append_nil] at htaken
  rw [Search.answer?, hstep, hfollow]
  simp only [List.map_append]
  exact htaken

theorem ready_of_follow {chain : Chain α} {chains : List (Chain α)}
    (hle : ∀ t ∈ net.segments, least ≤ t.length) (hready : net.Ready limit least chain)
    (h : chain.follow net limit footprint = .ok (.left chains)) :
    ∀ longer ∈ chains, net.Ready limit least longer := by
  intro longer hlonger
  unfold Chain.follow at h
  split at h
  next budget s hbudget hs =>
    obtain ⟨t, ht, hextend, hshort⟩ := extend_of_mem_left h hlonger
    have hprecedes : net.Precedes s t := ht
    have hlimit : longer.length ≤ limit := by simpa [Chain.exceeds] using hshort
    obtain ⟨region, hlonger⟩ := Chain.eq_of_extend hextend
    have hlast : longer.last = t.id := congrArg Chain.last hlonger
    constructor
    · exact ⟨t, hlast ▸ segment?_of_precedes hprecedes⟩
    · exact hready.2.extend hbudget hextend (hle t (mem_segments_of_precedes hprecedes)) hlimit
  next =>
    cases h
    cases hlonger

/-- With enough turns the loop ends, and its answer is that of the search over chains. -/
theorem answer?_eq_anyHolds (hleast : net.shortest? = some least) (hpos : 0 < least)
    (hle : ∀ t ∈ net.segments, least ≤ t.length) {stack : List (Chain α)}
    (hready : ∀ chain ∈ stack, net.Ready limit least chain) {turns : Nat}
    (hturns : net.turnsFor stack ≤ turns) :
    Search.answer? net limit footprint turns ⟨[], stack.map Chain.frame⟩ =
      some (net.anyHolds limit footprint stack) := by
  -- on the turns, since a stack may be longer after a pop than before it
  induction turns using Nat.strongRecOn generalizing stack with
  | ind turns ih =>
    obtain ⟨later, rfl⟩ := Nat.exists_eq_add_one.2 (Nat.lt_of_lt_of_le (Nat.succ_pos _) hturns)
    cases stack with
    | nil => simp [Search.answer?, Search.step, anyHolds]
    | cons chain rest =>
      by_cases hheld : chain.holds footprint = .ok false
      · have hchain := hready chain List.mem_cons_self
        obtain ⟨few, hfew, hpop⟩ := answer?_pop rest hleast hpos hchain hheld
        have henough := net.branching_lt_turnsFor chain rest
        obtain ⟨more, rfl⟩ := Nat.exists_eq_add_of_le (show few ≤ later by omega)
        rw [Nat.add_comm few more, hpop, anyHolds_of_not_held rest hheld]
        split
        next => rfl
        next => rfl
        next chains hleft =>
          have hless := turnsFor_left rest hleft
          apply ih more (by omega)
          · intro longer hlonger
            rcases List.mem_append.1 hlonger with hlonger | hlonger
            · exact ready_of_follow hle hchain hleft longer hlonger
            · exact hready longer (List.mem_cons_of_mem chain hlonger)
          · omega
      · exact answer?_of_held rest later hheld

omit [ExactQuotients α] in
theorem footprintFits_eq_anyHolds {id : Int} {s : Segment α} (hs : net.segment? id = some s)
    (limit : α) (region : Region α) (footprint : Ring α) :
    net.footprintFits limit id region footprint =
      net.anyHolds limit footprint [⟨s.id, region, 0, net.chainBudget limit⟩] := by
  cases hinside : Planar.covers region footprint with
  | error fault => simp [footprintFits, anyHolds, Chain.holds, hinside, bind, Except.bind]
  | ok inside =>
    cases inside with
    | true =>
      simp [footprintFits, anyHolds, Chain.holds, hinside, bind, Except.bind, pure, Except.pure]
    | false => simp [footprintFits, hinside, segment, hs, bind, Except.bind]

end Ends

/-! ## What is pushed -/

/-- A frame that was gathered on roads which follow a segment one after another. -/
structure Gathers (net : RoadNetwork α) (first : Frame α) (s : Segment α) (ss : List (Segment α))
    (frame : Frame α) : Prop where
  linked : (s :: ss).IsChain net.Precedes
  gathered : ss.foldlM (Frame.extend net) first = .ok frame
  last : ∀ t ∈ (s :: ss).getLast?, net.segment? frame.last = some t

/-- Every frame of a search was gathered on some roads, and what is due follows these. -/
structure Search.Sound (net : RoadNetwork α) (first : Frame α) (s : Segment α)
    (search : Search α) : Prop where
  stack : ∀ frame ∈ search.stack, ∃ ss, net.Gathers first s ss frame
  due : ∀ pair ∈ search.due, ∃ ss, net.Gathers first s ss pair.1 ∧
    ∀ t ∈ (s :: ss).getLast?, net.Precedes t pair.2

section Pushed

variable {net : RoadNetwork α} {limit : α} {footprint : Ring α} {first : Frame α} {s : Segment α}

theorem gathers_first (hlast : net.segment? first.last = some s) : net.Gathers first s [] first where
  linked := List.isChain_singleton s
  gathered := rfl
  last t ht := by
    cases ht
    exact hlast

theorem Gathers.extend {ss : List (Segment α)} {frame longer : Frame α} {t : Segment α}
    (h : net.Gathers first s ss frame) (ht : ∀ u ∈ (s :: ss).getLast?, net.Precedes u t)
    (hextend : frame.extend net t = .ok longer) : net.Gathers first s (ss ++ [t]) longer := by
  constructor
  · rw [← List.cons_append, List.isChain_append]
    exact ⟨h.linked, List.isChain_singleton t, by simpa using ht⟩
  · rw [List.foldlM_append, h.gathered]
    exact Fallible.bind_eq_ok.2 ⟨frame, rfl, Fallible.bind_eq_ok.2 ⟨longer, hextend, rfl⟩⟩
  · intro u hu
    rw [← List.cons_append, List.getLast?_concat] at hu
    obtain rfl := Option.some.inj hu
    obtain ⟨last, hlast⟩ : ∃ last, last ∈ (s :: ss).getLast? := ⟨_, List.getLast?_cons⟩
    obtain ⟨region, rfl⟩ := Frame.eq_of_extend hextend
    exact segment?_of_precedes (ht last hlast)

theorem Search.Sound.step {search next : Search α} (h : search.Sound net first s)
    (hstep : search.step net limit footprint = .ok (.inr next)) : next.Sound net first s := by
  rcases Search.step_cases hstep with ⟨frame, rest, following, rfl, hfollowing, rfl⟩ |
    ⟨frame, t, due, longer, hdue, hextend, hnext⟩
  · obtain ⟨ss, hss⟩ := h.stack frame List.mem_cons_self
    constructor
    · intro other hother
      exact h.stack other (List.mem_cons_of_mem frame hother)
    · intro pair hpair
      obtain ⟨t, ht, rfl⟩ := List.mem_map.1 (List.mem_reverse.1 hpair)
      refine ⟨ss, hss, ?_⟩
      intro u hu
      obtain ⟨v, hv, hroads⟩ := Fallible.map_eq_ok.1 hfollowing
      obtain rfl : v = u := by
        have hlast := hss.last u hu
        simp [segment, hlast] at hv
        exact hv.symm
      rw [← hroads] at ht
      exact ht
  · obtain ⟨ss, hss, hlast⟩ := h.due (frame, t) (hdue ▸ List.mem_cons_self)
    have hlonger := hss.extend hlast hextend
    have hrest : ∀ pair ∈ due, pair ∈ search.due := by
      intro pair hpair
      rw [hdue]
      exact List.mem_cons_of_mem _ hpair
    rcases hnext with ⟨-, rfl⟩ | rfl
    · constructor
      · exact List.forall_mem_cons.2 ⟨⟨_, hlonger⟩, h.stack⟩
      · exact fun pair hpair => h.due pair (hrest pair hpair)
    · exact ⟨h.stack, fun pair hpair => h.due pair (hrest pair hpair)⟩

theorem Search.Sound.reaches {start search : Search α} (h : start.Sound net first s)
    (hreach : start.Reaches net limit footprint search) : search.Sound net first s := by
  induction hreach with
  | refl => exact h
  | tail _ hstep ih => exact ih.step hstep

theorem Search.Pushes.extends {search : Search α} {frame : Frame α}
    (h : search.Pushes net limit footprint frame) :
    ∃ before t due, search.due = (before, t) :: due ∧ before.extend net t = .ok frame ∧
      frame.exceeds limit = false := by
  obtain ⟨next, hstep, hstack⟩ := h
  rcases Search.step_cases hstep with ⟨popped, rest, following, rfl, -, rfl⟩ |
    ⟨before, t, due, longer, hdue, hextend, ⟨hshort, rfl⟩ | rfl⟩
  · have hlength := congrArg List.length hstack
    simp at hlength
    omega
  · obtain rfl : longer = frame := (List.cons.inj hstack).1
    exact ⟨before, t, due, hdue, hextend, hshort⟩
  · exact absurd hstack.symm (List.cons_ne_self frame search.stack)

variable [ExactQuotients α]

theorem Gathers.length {least : α} {ss : List (Segment α)} {frame : Frame α}
    (hle : ∀ t ∈ net.segments, least ≤ t.length) (h : net.Gathers first s ss frame) :
    first.length + ss.length • least ≤ frame.length := by
  obtain ⟨hlinked, hrun, -⟩ := h
  induction ss generalizing s first with
  | nil =>
    obtain rfl := Fallible.pure_eq_ok.1 hrun
    rw [List.length_nil, zero_nsmul, add_zero]
  | cons t rest ih =>
    obtain ⟨hprecedes, hlinked⟩ := List.isChain_cons_cons.1 hlinked
    rw [List.foldlM_cons] at hrun
    obtain ⟨mid, hmid, hrun⟩ := Fallible.bind_eq_ok.1 hrun
    obtain ⟨region, rfl⟩ := Frame.eq_of_extend hmid
    have ht := hle t (mem_segments_of_precedes hprecedes)
    calc first.length + (t :: rest).length • least
        = first.length + least + rest.length • least := by
          rw [List.length_cons, succ_nsmul', add_assoc]
      _ ≤ first.length + t.length + rest.length • least :=
          add_le_add_left (add_le_add_right ht _) _
      _ ≤ frame.length := ih hlinked hrun

/-- The loop ends, with the answer of the search over chains, and every frame that it ever pushes
was gathered on roads after the segment so few that the least length of a segment fits into the
limit as often as there are roads. -/
theorem search_ends {id : Int} (hn : net.Accepted) (hs : net.segment? id = some s) (limit : α)
    (region : Region α) (footprint : Ring α) :
    ∃ least, 0 < least ∧ (∃ t ∈ net.segments, t.length = least) ∧
      (∀ t ∈ net.segments, least ≤ t.length) ∧
      Search.answer? net limit footprint ((net.branching + 1) ^ (net.chainBudget limit + 1) + 1)
          (.start id region) = some (net.footprintFits limit id region footprint) ∧
      ∀ search frame, (Search.start id region).Reaches net limit footprint search →
        search.Pushes net limit footprint frame →
        ∃ ss, (s :: ss).IsChain net.Precedes ∧
          ss.foldlM (Frame.extend net) ⟨id, region, 0⟩ = .ok frame ∧ ss.length • least ≤ limit := by
  obtain ⟨hmem, rfl⟩ := hn.segment?_eq_some.1 hs
  obtain ⟨least, hleast, ⟨t, ht, hlength⟩, hle⟩ := exists_shortest hmem
  have hpos : 0 < least := hlength ▸ hn.length_pos ht
  refine ⟨least, hpos, ⟨t, ht, hlength⟩, hle, ?ends, ?pushed⟩
  case ends =>
    have hready : ∀ chain ∈ [(⟨s.id, region, 0, net.chainBudget limit⟩ : Chain α)],
        net.Ready limit least chain := by
      intro chain hchain
      obtain rfl := List.mem_singleton.1 hchain
      exact ⟨⟨s, hs⟩, 0, le_refl _, (zero_nsmul least).le, Or.inl rfl⟩
    have hturns : net.turnsFor [⟨s.id, region, 0, net.chainBudget limit⟩] ≤
        (net.branching + 1) ^ (net.chainBudget limit + 1) + 1 := by
      simp [turnsFor, pending, Nat.pow_succ, Nat.mul_comm]
    rw [footprintFits_eq_anyHolds hs]
    exact answer?_eq_anyHolds hleast hpos hle hready hturns
  case pushed =>
    intro search frame hreach hpush
    have hstart : (Search.start s.id region).Sound net ⟨s.id, region, 0⟩ s := by
      constructor
      · intro other hother
        obtain rfl := List.mem_singleton.1 hother
        exact ⟨[], gathers_first hs⟩
      · intro pair hpair
        cases hpair
    obtain ⟨before, t, due, hdue, hextend, hshort⟩ := hpush.extends
    obtain ⟨ss, hss, hlast⟩ := (hstart.reaches hreach).due (before, t) (hdue ▸ List.mem_cons_self)
    have hframe := hss.extend hlast hextend
    have hlong := hframe.length hle
    rw [zero_add] at hlong
    have hlimit : frame.length ≤ limit := by simpa [Frame.exceeds] using hshort
    exact ⟨ss ++ [t], hframe.linked, hframe.gathered, hlong.trans hlimit⟩

end Pushed

/-! ## A road that follows itself -/

def loopingRoads : List (Segment Rat) :=
  [plainRoad 1 [⟨0, 8, 0⟩, ⟨40, 8, 0⟩] [⟨0, 4, 0⟩, ⟨40, 4, 0⟩] [1, 2, 2],
   plainRoad 2 [⟨40, 8, 0⟩, ⟨80, 8, 0⟩] [⟨40, 4, 0⟩, ⟨80, 4, 0⟩] [1]]

def loopingNetwork : RoadNetwork Rat := ⟨link loopingRoads, [], [], 2⟩

theorem accepted_looping : loopingNetwork.Accepted := by
  have hcheck : (check loopingRoads).isOk := by decide +kernel
  have hids : (loopingRoads.map (·.id)).Pairwise (· ≤ ·) := by simp [loopingRoads, plainRoad]
  exact accepted_of_ascending hcheck hids [] [] 2

/-- Two roads of length 40 fit into a limit of 100. -/
theorem looping_search_ends : ∃ s, loopingNetwork.Accepted ∧
    loopingNetwork.segment? 1 = some s ∧
    (∃ turns, Search.answer? loopingNetwork 100 (Ring.Box.ring ⟨0, 0, 200, 200⟩) turns
      (.start 1 (.single s.outline)) = some (loopingNetwork.footprintFits 100 1
        (.single s.outline) (Ring.Box.ring ⟨0, 0, 200, 200⟩))) ∧
    ∀ search frame, (Search.start 1 (.single s.outline)).Reaches loopingNetwork 100
        (Ring.Box.ring ⟨0, 0, 200, 200⟩) search →
      search.Pushes loopingNetwork 100 (Ring.Box.ring ⟨0, 0, 200, 200⟩) frame →
      ∃ ss, (s :: ss).IsChain loopingNetwork.Precedes ∧ ss.length ≤ 2 := by
  obtain ⟨s, hs⟩ : ∃ s, loopingNetwork.segment? 1 = some s := ⟨_, rfl⟩
  obtain ⟨least, -, ⟨t, ht, hlength⟩, -, hends, hpushed⟩ := search_ends accepted_looping hs 100
    (.single s.outline) (Ring.Box.ring ⟨0, 0, 200, 200⟩)
  have hlengths : ∀ t ∈ loopingNetwork.segments, t.length = 40 := by decide +kernel
  obtain rfl : least = 40 := hlength ▸ hlengths t ht
  refine ⟨s, accepted_looping, hs, ⟨_, hends⟩, ?_⟩
  intro search frame hreach hpush
  obtain ⟨ss, hlinked, -, hlimit⟩ := hpushed search frame hreach hpush
  refine ⟨ss, hlinked, ?_⟩
  have hmul : (ss.length : Rat) * 40 ≤ 100 :=
    (Rational.nsmulRec_eq_mul ss.length 40).symm.trans_le hlimit
  by_contra hmore
  have hthree : (3 : Rat) ≤ ss.length := by exact_mod_cast Nat.lt_of_not_le hmore
  linarith

end LaneRoute.RoadNetwork
