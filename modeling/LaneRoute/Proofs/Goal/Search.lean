import LaneRoute.Goal.Footprint
import LaneRoute.Proofs.Geometry.PointSets

/-!
# The search for a chain

Where no area is a fault, the search over a stack of chains ends, and it answers whether one of
them grows into a chain that holds the footprint. A chain grows by one segment at a time while
it is not too long; a chain that has just become too long is its last.
-/

set_option autoImplicit false

namespace LaneRoute.RoadNetwork

variable {α : Type} [Planar α]

def Follows (net : RoadNetwork α) (chain longer : Chain α) : Prop :=
  ∃ budget s t, chain.budget = budget + 1 ∧ net.segment? chain.last = some s ∧
    t ∈ net.roadsAmong s.successors ∧ chain.extend net budget t = .ok longer

def Chain.ends (limit : α) (footprint : Ring α) (chain : Chain α) : Prop :=
  chain.exceeds limit = true ∧ chain.holds footprint = .ok true

/-- Some chain that grows from a chain holds the footprint. -/
inductive Grows (net : RoadNetwork α) (limit : α) (footprint : Ring α) : Chain α → Prop
  | here {chain : Chain α} : chain.holds footprint = .ok true → Grows net limit footprint chain
  | ends {chain longer : Chain α} : net.Follows chain longer → longer.ends limit footprint →
      Grows net limit footprint chain
  | onward {chain longer : Chain α} : net.Follows chain longer → longer.exceeds limit = false →
      Grows net limit footprint longer → Grows net limit footprint chain

section Faults

variable [Faultless α] (net : RoadNetwork α) (limit : α) (footprint : Ring α)

theorem exists_holds (chain : Chain α) : ∃ inside, chain.holds footprint = .ok inside :=
  Faultless.exists_covers chain.region footprint

theorem exists_extend (chain : Chain α) (budget : Nat) (s : Segment α) :
    ∃ longer, chain.extend net budget s = .ok longer := by
  obtain ⟨added, hadded⟩ := Region.exists_ofRings (net.withShoulders s)
  obtain ⟨region, hregion⟩ := Region.exists_unite chain.region added
  refine ⟨⟨s.id, region, chain.length + s.length, budget⟩, ?_⟩
  apply Fallible.bind_eq_ok.2 ⟨added, hadded, _⟩
  apply Fallible.bind_eq_ok.2 ⟨region, hregion, _⟩
  rfl

/-- Following a chain finds a chain that ends, or leaves exactly the chains that can still
grow. -/
theorem followTo_cases (chain : Chain α) (budget : Nat) (ss : List (Segment α)) :
    (chain.followTo net limit footprint budget ss = .ok .found ∧
      ∃ s ∈ ss, ∃ longer, chain.extend net budget s = .ok longer ∧ longer.ends limit footprint) ∨
    ∃ chains, chain.followTo net limit footprint budget ss = .ok (.left chains) ∧
      (∀ s ∈ ss, ∀ longer, chain.extend net budget s = .ok longer →
        ¬ longer.ends limit footprint) ∧
      ∀ longer, longer ∈ chains ↔
        (∃ s ∈ ss, chain.extend net budget s = .ok longer) ∧ longer.exceeds limit = false := by
  induction ss with
  | nil => exact Or.inr ⟨[], rfl, by simp, by simp⟩
  | cons s rest ih =>
    rcases ih with ⟨hfound, t, ht, hends⟩ | ⟨chains, hleft, hnone, hmem⟩
    · left
      constructor
      · rw [Chain.followTo, hfound]
        rfl
      · exact ⟨t, List.mem_cons_of_mem s ht, hends⟩
    · obtain ⟨grown, hgrown⟩ := exists_extend net chain budget s
      obtain ⟨inside, hinside⟩ := exists_holds footprint grown
      have hrun : chain.followTo net limit footprint budget (s :: rest) =
          if !grown.exceeds limit then .ok (.left (grown :: chains))
          else if inside then .ok .found else .ok (.left chains) := by
        simp [Chain.followTo, hleft, hgrown, hinside, bind, Except.bind, pure, Except.pure]
      have hone : ∀ longer, chain.extend net budget s = .ok longer ↔ grown = longer := by
        simp [hgrown]
      by_cases hlong : grown.exceeds limit = true
      · cases inside with
        | true =>
          left
          constructor
          · simpa [hlong] using hrun
          · exact ⟨s, by simp, grown, hgrown, hlong, hinside⟩
        | false =>
          right
          refine ⟨chains, by simpa [hlong] using hrun, ?_, ?_⟩
          · simp only [List.forall_mem_cons, hone]
            constructor
            · rintro _ rfl ⟨-, hheld⟩
              simp [hinside] at hheld
            · exact hnone
          · intro longer
            simp only [List.mem_cons, exists_eq_or_imp, hone, hmem]
            grind
      · right
        refine ⟨grown :: chains, by simpa [hlong] using hrun, ?_, ?_⟩
        · simp only [List.forall_mem_cons, hone]
          constructor
          · rintro _ rfl ⟨hlonger, -⟩
            exact hlong hlonger
          · exact hnone
        · intro longer
          simp only [List.mem_cons, exists_eq_or_imp, hone, hmem]
          grind

theorem follow_cases (chain : Chain α) :
    (chain.follow net limit footprint = .ok .found ∧
      ∃ longer, net.Follows chain longer ∧ longer.ends limit footprint) ∨
    ∃ chains, chain.follow net limit footprint = .ok (.left chains) ∧
      (∀ longer, net.Follows chain longer → ¬ longer.ends limit footprint) ∧
      ∀ longer, longer ∈ chains ↔ net.Follows chain longer ∧ longer.exceeds limit = false := by
  unfold Chain.follow
  split
  next budget s hbudget hs =>
    have hfollows : ∀ longer, net.Follows chain longer ↔
        ∃ t ∈ net.roadsAmong s.successors, chain.extend net budget t = .ok longer := by
      intro longer
      simp [Follows, hbudget, hs]
    simp only [hfollows]
    rcases followTo_cases net limit footprint chain budget (net.roadsAmong s.successors) with
      ⟨hfound, t, ht, longer, hlonger, hends⟩ | ⟨chains, hleft, hnone, hmem⟩
    · exact Or.inl ⟨hfound, longer, ⟨t, ht, hlonger⟩, hends⟩
    · refine Or.inr ⟨chains, hleft, ?_, hmem⟩
      rintro longer ⟨t, ht, hlonger⟩
      exact hnone t ht longer hlonger
  next hno =>
    have hstuck : ∀ longer, ¬ net.Follows chain longer := by
      rintro longer ⟨budget, s, t, hbudget, hs, -⟩
      exact hno budget s hbudget hs
    exact Or.inr ⟨[], rfl, fun longer h => absurd h (hstuck longer), by simp [hstuck]⟩

omit [Faultless α] in
theorem grows_iff_of_left {chain : Chain α} {chains : List (Chain α)}
    (hheld : chain.holds footprint = .ok false)
    (hnone : ∀ longer, net.Follows chain longer → ¬ longer.ends limit footprint)
    (hmem : ∀ longer, longer ∈ chains ↔
      net.Follows chain longer ∧ longer.exceeds limit = false) :
    net.Grows limit footprint chain ↔ ∃ longer ∈ chains, net.Grows limit footprint longer := by
  constructor
  · intro h
    cases h with
    | here h => simp [hheld] at h
    | ends hstep hends => exact absurd hends (hnone _ hstep)
    | onward hstep hshort hgrows => exact ⟨_, (hmem _).2 ⟨hstep, hshort⟩, hgrows⟩
  · rintro ⟨longer, hlonger, hgrows⟩
    obtain ⟨hstep, hshort⟩ := (hmem longer).1 hlonger
    exact Grows.onward hstep hshort hgrows

/-- The search ends, and it finds a place exactly when a chain on the stack grows to one. -/
theorem anyHolds_eq_ok (stack : List (Chain α)) :
    ∃ found, net.anyHolds limit footprint stack = .ok found ∧
      (found = true ↔ ∃ chain ∈ stack, net.Grows limit footprint chain) := by
  induction stack using anyHolds.induct net limit footprint with
  | case1 =>
    refine ⟨false, ?_, by simp⟩
    rw [anyHolds]
  | case2 chain rest fault hfault =>
    obtain ⟨inside, hinside⟩ := exists_holds footprint chain
    rw [hfault] at hinside
    cases hinside
  | case3 chain rest hheld =>
    refine ⟨true, ?_, ?_⟩
    · rw [anyHolds, hheld]
    · exact iff_of_true rfl ⟨chain, by simp, Grows.here hheld⟩
  | case4 chain rest hheld fault hfault =>
    rcases follow_cases net limit footprint chain with ⟨hfound, -⟩ | ⟨chains, hleft, -⟩
    · rw [hfault] at hfound
      cases hfound
    · rw [hfault] at hleft
      cases hleft
  | case5 chain rest hheld hfound =>
    rcases follow_cases net limit footprint chain with
      ⟨-, longer, hstep, hends⟩ | ⟨chains, hleft, -⟩
    · refine ⟨true, ?_, iff_of_true rfl ⟨chain, by simp, Grows.ends hstep hends⟩⟩
      rw [anyHolds, hheld]
      dsimp only
      split <;> simp_all
    · rw [hfound] at hleft
      cases hleft
  | case6 chain rest hheld chains hleft ih =>
    obtain ⟨found, hrest, hiff⟩ := ih
    refine ⟨found, ?_, ?_⟩
    · rw [anyHolds, hheld]
      dsimp only
      split <;> simp_all
    · rcases follow_cases net limit footprint chain with ⟨hfound, -⟩ | ⟨left, hleft', hnone, hmem⟩
      · rw [hleft] at hfound
        cases hfound
      · rw [hleft] at hleft'
        cases hleft'
        have hgrows := grows_iff_of_left net limit footprint hheld hnone hmem
        rw [hiff]
        simp only [List.mem_append, List.mem_cons, or_and_right, exists_or, exists_eq_left, hgrows]

theorem footprintFits_eq_ok {id : Int} {s : Segment α} (hs : net.segment? id = some s)
    (region : Region α) :
    ∃ fits, net.footprintFits limit id region footprint = .ok fits ∧
      (fits = true ↔
        net.Grows limit footprint ⟨s.id, region, 0, net.chainBudget limit⟩) := by
  obtain ⟨inside, hinside⟩ := Faultless.exists_covers region footprint
  unfold footprintFits
  rw [hinside]
  cases inside with
  | true => exact ⟨true, rfl, iff_of_true rfl (Grows.here hinside)⟩
  | false =>
    obtain ⟨found, hfound, hiff⟩ :=
      anyHolds_eq_ok net limit footprint [⟨s.id, region, 0, net.chainBudget limit⟩]
    have hsegment : net.segment id = .ok s := by simp [segment, hs]
    refine ⟨found, ?_, by simpa using hiff⟩
    exact Fallible.bind_eq_ok.2 ⟨false, rfl, Fallible.bind_eq_ok.2 ⟨s, hsegment, hfound⟩⟩

end Faults

end LaneRoute.RoadNetwork
