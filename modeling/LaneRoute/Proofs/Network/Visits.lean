import LaneRoute.Proofs.Geometry.Distances
import LaneRoute.Proofs.Heap
import LaneRoute.Proofs.Network.Nearest

/-!
# Visits in order

The visit of all segments pops the distances to their rectangles, each with an id, off a heap
and looks the ids up, until the visitor wants to stop. What is popped comes in the order that
the visit is defined by, so the visitor is called on a beginning of that order, and it may keep
a state of any kind.
-/

set_option autoImplicit false

namespace LaneRoute

namespace RoadNetwork

open Scalar

variable {α σ : Type} [Sided α]

/-! ## The visit by a heap -/

def key (b : α × Segment α) : α × Int := (b.1, b.2.id)

def keyBefore (a b : α × Int) : Bool := precedes a.1 b.1 (decide (a.2 < b.2))

def boxKeys (net : RoadNetwork α) (p : Point α) : Vector (α × Int) net.segments.length :=
  ⟨(net.segments.map fun s => (boxDistance p s, s.id)).toArray, by simp⟩

/-- Visit what is popped off a heap until the visitor wants to stop. -/
def visitHeap (net : RoadNetwork α) (visit : σ → α → Segment α → σ × Bool) :
    {n : Nat} → σ → Vector (α × Int) n → Except Fault (σ × Option (Segment α))
  | 0, state, _ => .ok (state, none)
  | _ + 1, state, heap => do
    let (nearest, rest) := Heap.pop keyBefore heap
    let s ← net.segment nearest.2
    let (state, stop) := visit state nearest.1 s
    if stop then return (state, some s) else net.visitHeap visit state rest

theorem visitHeap_eq {net : RoadNetwork α} {visit : σ → α → Segment α → σ × Bool} {n : Nat}
    {heap : Vector (α × Int) n} {order : List (α × Segment α)} {state : σ}
    (hdrain : Heap.drain keyBefore heap = order.map key)
    (hfound : ∀ b ∈ order, net.segment b.2.id = .ok b.2) :
    net.visitHeap visit state heap = .ok (visitUntil visit state order) := by
  induction n generalizing state order with
  | zero =>
    obtain rfl : order = [] := by simpa [Heap.drain] using hdrain
    rfl
  | succ n ih =>
    cases order with
    | nil => simp [Heap.drain] at hdrain
    | cons b order =>
      obtain ⟨hfirst, hrest⟩ := List.cons.inj hdrain
      simp only [visitHeap, hfirst, key, hfound b (by simp), bind, Except.bind, visitUntil]
      split
      · rfl
      · exact ih hrest fun c hc => hfound c (by simp [hc])

section Ordered

variable [OrderedNumbers α]

theorem weakOrder_keyBefore :
    WeakOrder (keyBefore (α := α)) fun k => isNumber k.1 = true :=
  OrderedNumbers.weakOrder_precedes (fun _ h => h) (weakOrder_of_key Prod.snd _)

theorem keyBefore_eq_false_iff {a b : α × Int} (ha : isNumber a.1 = true)
    (hb : isNumber b.1 = true) :
    keyBefore b a = false ↔ a.1 ≤ b.1 ∧ (b.1 ≤ a.1 → a.2 ≤ b.2) := by
  rw [← Bool.not_eq_true, keyBefore, OrderedNumbers.precedes_iff_lt_or, not_or,
    OrderedNumbers.not_lt_iff ha hb, decide_eq_true_iff]
  refine and_congr_right fun hle => ?_
  rw [not_and, not_lt]
  exact ⟨fun h hback => h ⟨hback, hle⟩, fun h hlevel => h hlevel.1⟩

theorem eq_of_keyBefore {a b : α × Int} (ha : isNumber a.1 = true) (hb : isNumber b.1 = true)
    (hab : keyBefore a b = false) (hba : keyBefore b a = false) : a.2 = b.2 := by
  obtain ⟨hle, htie⟩ := (keyBefore_eq_false_iff ha hb).1 hba
  obtain ⟨hge, htie'⟩ := (keyBefore_eq_false_iff hb ha).1 hab
  exact le_antisymm (htie hge) (htie' hle)

theorem precedes_le_iff {a b : α × Int} (ha : isNumber a.1 = true) (hb : isNumber b.1 = true) :
    precedes a.1 b.1 (decide (a.2 ≤ b.2)) = true ↔ keyBefore b a = false := by
  rw [keyBefore_eq_false_iff ha hb, OrderedNumbers.precedes_iff_lt_or, decide_eq_true_iff,
    OrderedNumbers.lt_iff]
  by_cases hback : b.1 ≤ a.1
  · simp [hback]
  · simp [hback]

/-! ## The order of the visit -/

variable {net : RoadNetwork α}

omit [OrderedNumbers α] in
theorem mem_byBoxDistance_iff {p : Point α} {b : α × Segment α} :
    b ∈ net.byBoxDistance p ↔ b.2 ∈ net.segments ∧ b.1 = boxDistance p b.2 := by
  rw [(perm_byBoxDistance net p).mem_iff, List.mem_map]
  constructor
  · rintro ⟨s, hs, rfl⟩
    exact ⟨hs, rfl⟩
  · rintro ⟨hs, hd⟩
    exact ⟨b.2, hs, Prod.ext hd.symm rfl⟩

theorem isNumber_of_mem_byBoxDistance {p : Point α} {b : α × Segment α}
    (h : b ∈ net.byBoxDistance p) : isNumber b.1 = true := by
  rw [(mem_byBoxDistance_iff.1 h).2]
  exact Ring.isNumber_distance _ p

omit [OrderedNumbers α] in
theorem nodup_ids_byBoxDistance (ha : net.Accepted) (p : Point α) :
    ((net.byBoxDistance p).map fun b => b.2.id).Nodup := by
  have hids : ((net.byBoxDistance p).map fun b => b.2.id).Perm net.ids := by
    have hperm := (perm_byBoxDistance net p).map fun b => b.2.id
    rw [List.map_map] at hperm
    exact hperm
  exact hids.nodup_iff.2 ha.nodup_ids

theorem keyBefore_byBoxDistance (net : RoadNetwork α) (p : Point α) :
    (net.byBoxDistance p).Pairwise fun a b => keyBefore (key b) (key a) = false := by
  have ho : WeakOrder (fun a b : α × Segment α => keyBefore (key a) (key b))
      fun b => isNumber b.1 = true :=
    OrderedNumbers.weakOrder_precedes (fun _ h => h)
      (weakOrder_of_key (fun b : α × Segment α => b.2.id) _)
  apply ho.pairwise_mergeSort
  · intro b hb
    exact isNumber_of_mem_byBoxDistance ((perm_byBoxDistance net p).mem_iff.2 hb)
  · intro a b ha hb
    exact precedes_le_iff (a := key a) (b := key b) ha hb

theorem pairwise_keyBefore (ha : net.Accepted) (p : Point α) :
    (net.byBoxDistance p).Pairwise fun a b => keyBefore (key a) (key b) = true := by
  have hids := List.pairwise_map.1 (nodup_ids_byBoxDistance ha p)
  refine (hids.and (net.keyBefore_byBoxDistance p)).imp_of_mem fun {a b} ha hb hab => ?_
  by_contra hnot
  exact hab.1 (eq_of_keyBefore (isNumber_of_mem_byBoxDistance ha)
    (isNumber_of_mem_byBoxDistance hb) (Bool.eq_false_iff.2 hnot) hab.2)

theorem drain_boxKeys (ha : net.Accepted) (p : Point α) :
    Heap.drain keyBefore (Heap.heapify keyBefore (net.boxKeys p)) =
      (net.byBoxDistance p).map key := by
  have hperm : (Heap.drain keyBefore (Heap.heapify keyBefore (net.boxKeys p))).Perm
      ((net.byBoxDistance p).map key) := by
    have hkeys : (net.boxKeys p).toList =
        (net.segments.map fun s => (boxDistance p s, s)).map key := by
      simp [boxKeys, key]
    apply (Heap.drain_heapify_perm (net.boxKeys p)).trans
    rw [hkeys]
    exact ((perm_byBoxDistance net p).map _).symm
  have hnumber : ∀ k ∈ net.boxKeys p, isNumber k.1 = true := by
    intro k hk
    obtain ⟨s, -, rfl⟩ : ∃ s ∈ net.segments, (boxDistance p s, s.id) = k := by
      simpa [boxKeys] using hk
    exact Ring.isNumber_distance _ p
  symm
  refine eq_of_perm_of_pairwise (fun k hk l hl hkl hlk => ?ties) ?sorted
    (Heap.pairwise_drain_heapify weakOrder_keyBefore hnumber) hperm.symm
  case ties =>
    obtain ⟨b, hb, rfl⟩ := List.mem_map.1 hk
    obtain ⟨c, hc, rfl⟩ := List.mem_map.1 hl
    have hid := eq_of_keyBefore (isNumber_of_mem_byBoxDistance hb)
      (isNumber_of_mem_byBoxDistance hc) hkl hlk
    rw [List.inj_on_of_nodup_map (nodup_ids_byBoxDistance ha p) hb hc hid]
  case sorted =>
    rw [List.pairwise_map]
    exact net.keyBefore_byBoxDistance p

end Ordered

/-! ## Calls -/

/-- Calls of a visitor one after another, each in the state that the last one left. All are
answered with no but for the last one, which finds its segment when it is answered with yes. -/
inductive Called (visit : σ → α → Segment α → σ × Bool) :
    σ → List (α × Segment α) → σ → Option (Segment α) → Prop
  | nothing (state : σ) : Called visit state [] state none
  | stop {state reached : σ} {d : α} {s : Segment α} (h : visit state d s = (reached, true)) :
      Called visit state [(d, s)] reached (some s)
  | go {state next reached : σ} {d : α} {s : Segment α} {calls : List (α × Segment α)}
      {found : Option (Segment α)} (h : visit state d s = (next, false))
      (hrest : Called visit next calls reached found) :
      Called visit state ((d, s) :: calls) reached found

def recording (visit : σ → α → Segment α → σ × Bool) (record : List (α × Segment α) × σ) (d : α)
    (s : Segment α) : (List (α × Segment α) × σ) × Bool :=
  ((record.1 ++ [(d, s)], (visit record.2 d s).1), (visit record.2 d s).2)

omit [Sided α] in
theorem exists_calls (visit : σ → α → Segment α → σ × Bool) (state : σ)
    (order before : List (α × Segment α)) :
    ∃ calls reached found, Called visit state calls reached found ∧ calls <+: order ∧
      (found = none → calls = order) ∧ visitUntil visit state order = (reached, found) ∧
      visitUntil (recording visit) (before, state) order = ((before ++ calls, reached), found) := by
  induction order generalizing state before with
  | nil => exact ⟨[], state, none, .nothing state, by simp, fun _ => rfl, rfl, by simp [visitUntil]⟩
  | cons b order ih =>
    obtain ⟨d, s⟩ := b
    cases hvisit : visit state d s with
    | mk next stop =>
      cases stop with
      | true =>
        refine ⟨[(d, s)], next, some s, .stop hvisit, by simp, by simp, ?_, ?_⟩
        · simp [visitUntil, hvisit]
        · simp [visitUntil, recording, hvisit]
      | false =>
        obtain ⟨calls, reached, found, hcalled, hbegins, hall, hvisits, hrecords⟩ :=
          ih next (before ++ [(d, s)])
        refine ⟨(d, s) :: calls, reached, found, .go hvisit hcalled, ?_, ?_, ?_, ?_⟩
        · simpa using hbegins
        · exact fun hnone => congrArg _ (hall hnone)
        · simp [visitUntil, hvisit, hvisits]
        · simp [visitUntil, recording, hvisit, hrecords]

/-- All segments are visited in the strict order of the distances to their rectangles and of
their ids, as far as the visitor lets it happen, and what a heap yields is this order. The
visitor is called on a beginning of it, on no segment twice and on each with the distance to
its rectangle. The visit stops at the first yes and finds the segment of this call; without a
yes it goes through all segments and finds none. -/
theorem nearestUntil_calls [OrderedNumbers α] {net : RoadNetwork α} (ha : net.Accepted)
    (p : Point α) (visit : σ → α → Segment α → σ × Bool) (state : σ) :
    (net.byBoxDistance p).Perm (net.segments.map fun s => (boxDistance p s, s)) ∧
    ((net.byBoxDistance p).Pairwise fun a b => keyBefore (key a) (key b) = true) ∧
    net.visitHeap visit state (Heap.heapify keyBefore (net.boxKeys p)) =
      .ok (net.nearestUntil p visit state) ∧
    ∃ calls reached found,
      net.nearestUntil p visit state = (reached, found) ∧
      net.nearestUntil p (recording visit) ([], state) = ((calls, reached), found) ∧
      Called visit state calls reached found ∧
      calls <+: net.byBoxDistance p ∧
      (calls.map fun c => c.2.id).Nodup ∧
      (∀ c ∈ calls, c.2 ∈ net.segments ∧ c.1 = boxDistance p c.2) ∧
      (found = none → calls = net.byBoxDistance p) := by
  have hids := nodup_ids_byBoxDistance ha p
  refine ⟨perm_byBoxDistance net p, net.pairwise_keyBefore ha p, ?heap, ?calls⟩
  case heap =>
    apply visitHeap_eq (drain_boxKeys ha p)
    intro b hb
    exact segment_eq_ok.2 (ha.segment?_eq_some.2 ⟨(mem_byBoxDistance_iff.1 hb).1, rfl⟩)
  case calls =>
    obtain ⟨calls, reached, found, hcalled, hbegins, hall, hvisits, hrecords⟩ :=
      exists_calls visit state (net.byBoxDistance p) []
    refine ⟨calls, reached, found, hvisits, hrecords, hcalled, hbegins, ?_, ?_, hall⟩
    · exact hids.sublist (hbegins.sublist.map _)
    · exact fun c hc => mem_byBoxDistance_iff.1 (hbegins.subset hc)

/-! ## From the start of the first road -/

def untilSecond (count : Nat) (_ : Rat) (_ : Segment Rat) : Nat × Bool :=
  (count + 1, decide (count = 1))

def fromStart : List (Rat × Segment Rat) :=
  (crossing false).segments.map fun s => (boxDistance ⟨-10, 0⟩ s, s)

theorem byBoxDistance_crossing : (crossing false).byBoxDistance ⟨-10, 0⟩ = fromStart := by
  apply List.mergeSort_of_pairwise
  decide +kernel

/-- Both roads of the crossing are visited, the first one first, and the second one is found. -/
theorem crossing_untilSecond : (crossing false).Accepted ∧
    ∃ calls found, (crossing false).nearestUntil ⟨-10, 0⟩ untilSecond 0 = (2, found) ∧
      Called untilSecond 0 calls 2 found ∧
      calls.map key = [(10, 1), (26, 2)] ∧ found.map (·.id) = some 2 := by
  obtain ⟨-, -, -, calls, reached, found, hvisits, hrecords, hcalled, -⟩ :=
    nearestUntil_calls (accepted_crossing false) ⟨-10, 0⟩ untilSecond 0
  have hrun : (visitUntil untilSecond 0 fromStart).1 = 2 ∧
      (visitUntil untilSecond 0 fromStart).2.map (·.id) = some 2 := by
    decide +kernel
  have hcalls : (visitUntil (recording untilSecond) ([], 0) fromStart).1.1.map key =
      [(10, 1), (26, 2)] := by
    decide +kernel
  rw [← byBoxDistance_crossing] at hrun hcalls
  rw [nearestUntil] at hvisits hrecords
  rw [hvisits] at hrun
  rw [hrecords] at hcalls
  obtain ⟨rfl, hfound⟩ : reached = 2 ∧ found.map (·.id) = some 2 := hrun
  exact ⟨accepted_crossing false, calls, found, hvisits, hcalled, hcalls, hfound⟩

end RoadNetwork

end LaneRoute
