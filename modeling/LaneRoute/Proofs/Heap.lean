import LaneRoute.Proofs.WeakOrder
import Mathlib.Data.List.Sort

/-!
# Heaps

A binary heap in a vector: the children of position `i` are at `2 * i + 1` and `2 * i + 2`. A
thing is settled by letting the first of the children move up in its place, down to a leaf, and
then letting the thing rise from there. While this goes on, one position is out of order, and
what stands above it is still in order with what stands below it. Taking the root again and
again yields all things in order.
-/

set_option autoImplicit false

namespace LaneRoute.Heap

variable {β : Type} {n : Nat}

section Operations

variable (before : β → β → Bool)

def firstChild? (heap : Vector β n) (i : Nat) : Option { c : Nat // i < c ∧ c < n } :=
  if _ : 2 * i + 2 < n then
    if before heap[2 * i + 1] heap[2 * i + 2] then some ⟨2 * i + 1, by omega⟩
    else some ⟨2 * i + 2, by omega⟩
  else if _ : 2 * i + 1 < n then some ⟨2 * i + 1, by omega⟩
  else none

def sink (heap : Vector β n) (i : Nat) : Vector β n × Nat :=
  match firstChild? before heap i with
  | none => (heap, i)
  | some ⟨c, hc⟩ => sink (heap.swap i c (by omega) hc.2) c
termination_by n - i

def rise (start : Nat) (heap : Vector β n) (i : Nat) : Vector β n :=
  if h : start < i ∧ i < n then
    if before heap[i] heap[(i - 1) / 2] then
      rise start (heap.swap i ((i - 1) / 2)) ((i - 1) / 2)
    else heap
  else heap
termination_by i

def settle (heap : Vector β n) (i : Nat) : Vector β n :=
  rise before i (sink before heap i).1 (sink before heap i).2

def settleBelow (heap : Vector β n) : Nat → Vector β n
  | 0 => heap
  | k + 1 => settleBelow (settle before heap k) k

/-- A vector made a heap. Its second half has no children. -/
def heapify (heap : Vector β n) : Vector β n := settleBelow before heap (n / 2)

def pop (heap : Vector β (n + 1)) : β × Vector β n :=
  (heap[0], if _ : 0 < n then settle before (heap.pop.set 0 heap.back) 0 else heap.pop)

def drain : {n : Nat} → Vector β n → List β
  | 0, _ => []
  | _ + 1, heap => (pop before heap).1 :: drain (pop before heap).2

end Operations

/-! ## The same things -/

section Perm

variable {before : β → β → Bool}

theorem sink_perm (heap : Vector β n) (i : Nat) : (sink before heap i).1.Perm heap := by
  fun_induction sink before heap i with
  | case1 => exact .rfl
  | case2 heap i c hc _ ih => exact ih.trans (Vector.swap_perm _ _)

theorem rise_perm (start : Nat) (heap : Vector β n) (i : Nat) :
    (rise before start heap i).Perm heap := by
  fun_induction rise before start heap i with
  | case1 heap i h _ ih => exact ih.trans (Vector.swap_perm _ _)
  | case2 => exact .rfl
  | case3 => exact .rfl

theorem settle_perm (heap : Vector β n) (i : Nat) : (settle before heap i).Perm heap :=
  (rise_perm i _ _).trans (sink_perm heap i)

theorem settleBelow_perm (heap : Vector β n) (k : Nat) :
    (settleBelow before heap k).Perm heap := by
  induction k generalizing heap with
  | zero => exact .rfl
  | succ k ih => exact (ih _).trans (settle_perm heap k)

theorem heapify_perm (heap : Vector β n) : (heapify before heap).Perm heap :=
  settleBelow_perm heap (n / 2)

theorem toList_eq_concat (heap : Vector β (n + 1)) :
    heap.toList = heap.pop.toList ++ [heap.back] := by
  rw [← Vector.toList_push, Vector.push_pop_back]

theorem pop_perm (heap : Vector β (n + 1)) :
    ((pop before heap).1 :: (pop before heap).2.toList).Perm heap.toList := by
  have hroot : heap.toList[0]? = some heap[0] := by simp
  have hlength : heap.pop.toList.length = n := by simp
  rw [toList_eq_concat heap] at hroot ⊢
  unfold pop
  split
  next hpos =>
    have hsettled : (settle before (heap.pop.set 0 heap.back) 0).toList.Perm
        (heap.pop.set 0 heap.back).toList := (settle_perm _ 0).toList
    rw [Vector.toList_set] at hsettled
    cases hrest : heap.pop.toList with
    | nil => simp [hrest] at hlength; omega
    | cons x rest =>
      rw [hrest] at hroot hsettled
      obtain rfl : x = heap[0] := by simpa using hroot
      exact (hsettled.cons _).trans ((List.perm_append_singleton _ _).symm.cons _)
  next hzero =>
    have hrest : heap.pop.toList = [] := List.eq_nil_of_length_eq_zero (by omega)
    rw [hrest] at hroot ⊢
    obtain hback : heap.back = heap[0] := by simpa using hroot
    rw [hback]
    exact .rfl

theorem drain_perm (heap : Vector β n) : (drain before heap).Perm heap.toList := by
  induction n with
  | zero => simp [drain]
  | succ n ih => exact ((ih _).cons _).trans (pop_perm heap)

theorem drain_heapify_perm (heap : Vector β n) :
    (drain before (heapify before heap)).Perm heap.toList :=
  (drain_perm _).trans (heapify_perm heap).toList

end Perm

/-! ## Order -/

def IsChild (c p : Nat) : Prop := c = 2 * p + 1 ∨ c = 2 * p + 2

def Under (p c : Nat) : Prop := Relation.ReflTransGen (fun p c => IsChild c p) p c

theorem IsChild.lt {c p : Nat} (h : IsChild c p) : p < c := by
  unfold IsChild at h
  omega

theorem IsChild.parent_eq {c p : Nat} (h : IsChild c p) : (c - 1) / 2 = p := by
  unfold IsChild at h
  omega

theorem IsChild.unique {c p q : Nat} (hp : IsChild c p) (hq : IsChild c q) : p = q :=
  hp.parent_eq.symm.trans hq.parent_eq

theorem Under.le {p c : Nat} (h : Under p c) : p ≤ c := by
  induction h with
  | refl => exact le_refl p
  | tail _ hchild ih => exact ih.trans hchild.lt.le

theorem Under.parent {p c : Nat} (h : Under p c) (hlt : p < c) :
    IsChild c ((c - 1) / 2) ∧ Under p ((c - 1) / 2) := by
  cases h with
  | refl => omega
  | tail hunder hchild =>
    rw [hchild.parent_eq]
    exact ⟨hchild, hunder⟩

section Order

variable (before : β → β → Bool)

def InOrder (heap : Vector β n) (i j : Nat) : Prop :=
  ∀ (hi : i < n) (hj : j < n), before heap[j] heap[i] = false

def Ordered (heap : Vector β n) (start : Nat) : Prop :=
  ∀ p c, start ≤ p → IsChild c p → InOrder before heap p c

/-- All are in order but for one thing on its way down, which is not compared to anything. -/
structure Sinking (heap : Vector β n) (start i : Nat) : Prop where
  under : Under start i
  away : ∀ p c, start ≤ p → IsChild c p → p ≠ i → c ≠ i → InOrder before heap p c
  across : ∀ p c, start ≤ p → IsChild i p → IsChild c i → InOrder before heap p c

/-- All are in order but for one thing on its way up, which may go before what is above it. -/
structure Rising (heap : Vector β n) (start i : Nat) : Prop where
  under : Under start i
  away : ∀ p c, start ≤ p → IsChild c p → c ≠ i → InOrder before heap p c
  across : ∀ p c, start ≤ p → IsChild i p → IsChild c i → InOrder before heap p c

end Order

variable {before : β → β → Bool} {heap : Vector β n} {start i : Nat}

def source (i j k : Nat) : Nat := if k = i then j else if k = j then i else k

theorem inOrder_swap {i j a b : Nat} (hi : i < n) (hj : j < n)
    (h : InOrder before heap (source i j a) (source i j b)) :
    InOrder before (heap.swap i j) a b := by
  intro ha hb
  have hsource : ∀ k (hk : k < n), ∃ hs : source i j k < n,
      (heap.swap i j)[k] = heap[source i j k] := by
    intro k hk
    unfold source
    split
    next hki => exact ⟨hj, by simp [hki]⟩
    next hki =>
      split
      next hkj => exact ⟨hi, by simp [hkj]⟩
      next hkj => exact ⟨hk, by simp [hki, hkj]⟩
  obtain ⟨ha', hsa⟩ := hsource a ha
  obtain ⟨hb', hsb⟩ := hsource b hb
  rw [hsa, hsb]
  exact h ha' hb'

theorem source_left (i j : Nat) : source i j i = j := if_pos rfl

theorem source_right {i j : Nat} (h : j ≠ i) : source i j j = i := by simp [source, h]

theorem source_other {i j k : Nat} (hi : k ≠ i) (hj : k ≠ j) : source i j k = k := by
  simp [source, hi, hj]

theorem firstChild?_eq_none (h : firstChild? before heap i = none) : n ≤ 2 * i + 1 := by
  unfold firstChild? at h
  split at h
  · split at h <;> cases h
  · split at h
    · cases h
    · omega

section WeakOrder

variable {kind : β → Prop} (ho : WeakOrder before kind) (hkind : ∀ x ∈ heap, kind x)

include ho hkind

theorem InOrder.trans {a b c : Nat} (hb : b < n) (hab : InOrder before heap a b)
    (hbc : InOrder before heap b c) : InOrder before heap a c := by
  intro ha hc
  have hmem : ∀ k (hk : k < n), kind heap[k] := fun k hk => hkind _ (Vector.getElem_mem hk)
  exact ho.le_trans (hmem a ha) (hmem b hb) (hmem c hc) (hab ha hb) (hbc hb hc)

theorem inOrder_of_before {a b : Nat} (ha : a < n) (hb : b < n)
    (h : before heap[a] heap[b] = true) : InOrder before heap a b := by
  intro _ _
  exact ho.asymm _ _ (hkind _ (Vector.getElem_mem ha)) (hkind _ (Vector.getElem_mem hb)) h

theorem firstChild?_eq_some {c : { c : Nat // i < c ∧ c < n }}
    (h : firstChild? before heap i = some c) :
    IsChild c i ∧ ∀ d, IsChild d i → InOrder before heap c d := by
  have hself : ∀ k, InOrder before heap k k := by
    intro k hk _
    exact ho.irrefl (hkind _ (Vector.getElem_mem hk))
  unfold firstChild? at h
  split at h
  next hright =>
    split at h
    next hlt =>
      obtain rfl := Option.some.inj h
      refine ⟨Or.inl rfl, ?_⟩
      rintro d (rfl | rfl)
      · exact hself _
      · exact inOrder_of_before ho hkind (show 2 * i + 1 < n by omega) hright hlt
    next hle =>
      obtain rfl := Option.some.inj h
      refine ⟨Or.inr rfl, ?_⟩
      rintro d (rfl | rfl)
      · intro _ _
        exact Bool.eq_false_iff.2 hle
      · exact hself _
  next hright =>
    split at h
    · obtain rfl := Option.some.inj h
      refine ⟨Or.inl rfl, ?_⟩
      rintro d (rfl | rfl)
      · exact hself _
      · intro _ hd
        exact absurd hd hright
    · cases h

omit ho hkind in
theorem Sinking.swap {c : Nat} (h : Sinking before heap start i) (hi : i < n) (hc : c < n)
    (hchild : IsChild c i) (hfirst : ∀ d, IsChild d i → InOrder before heap c d) :
    Sinking before (heap.swap i c) start c := by
  have hic := hchild.lt
  have hstart := h.under.le
  constructor
  case under => exact h.under.tail hchild
  case away =>
    intro p d hp hd hpc hdc
    have hpd := hd.lt
    apply inOrder_swap hi hc
    by_cases hpi : p = i
    · subst hpi
      rw [source_left, source_other (by omega) hdc]
      exact hfirst d hd
    · rw [source_other hpi hpc]
      by_cases hdi : d = i
      · subst hdi
        rw [source_left]
        exact h.across p c hp hd hchild
      · rw [source_other hdi hdc]
        exact h.away p d hp hd hpi hdi
  case across =>
    intro p d hp hcp hdc
    obtain rfl : p = i := hcp.unique hchild
    have hcd := hdc.lt
    apply inOrder_swap hi hc
    rw [source_left, source_other (by omega) (by omega)]
    exact h.away c d (by omega) hdc (by omega) (by omega)

omit ho hkind in
theorem Sinking.rising (h : Sinking before heap start i) (hleaf : n ≤ 2 * i + 1) :
    Rising before heap start i := by
  refine ⟨h.under, fun p c hp hc hci => ?_, h.across⟩
  by_cases hpi : p = i
  · intro _ hcn
    unfold IsChild at hc
    omega
  · exact h.away p c hp hc hpi hci

theorem Rising.swap {p : Nat} (h : Rising before heap start i) (hp : Under start p) (hi : i < n)
    (hpn : p < n) (hchild : IsChild i p) (hlt : before heap[i] heap[p] = true) :
    Rising before (heap.swap i p) start p := by
  have hpi := hchild.lt
  have hup : InOrder before heap i p := inOrder_of_before ho hkind hi hpn hlt
  constructor
  case under => exact hp
  case away =>
    intro q d hq hd hdp
    have hqd := hd.lt
    apply inOrder_swap hi hpn
    by_cases hqp : q = p
    · subst hqp
      rw [source_right (by omega)]
      by_cases hdi : d = i
      · subst hdi
        rw [source_left]
        exact hup
      · rw [source_other hdi hdp]
        exact hup.trans ho hkind hpn (h.away q d hq hd hdi)
    · by_cases hqi : q = i
      · subst hqi
        rw [source_left, source_other (by omega) hdp]
        exact h.across p d hp.le hchild hd
      · have hdi : d ≠ i := by
          rintro rfl
          exact hqp (hd.unique hchild)
        rw [source_other hqi hqp, source_other hdi hdp]
        exact h.away q d hq hd hdi
  case across =>
    intro q d hq hpq hdp
    have hqp := hpq.lt
    have hpd := hdp.lt
    have habove := h.away q p hq hpq (by omega)
    apply inOrder_swap hi hpn
    rw [source_other (by omega) (by omega)]
    by_cases hdi : d = i
    · subst hdi
      rw [source_left]
      exact habove
    · rw [source_other hdi (by omega)]
      exact habove.trans ho hkind hpn (h.away p d hp.le hdp hdi)

omit ho hkind in
theorem Rising.ordered (h : Rising before heap start i)
    (hstop : ∀ p, start ≤ p → IsChild i p → InOrder before heap p i) :
    Ordered before heap start := by
  intro p c hp hc
  by_cases hci : c = i
  · subst hci
    exact hstop p hp hc
  · exact h.away p c hp hc hci

end WeakOrder

/-! ## Heaps in order -/

section WeakOrder

variable {kind : β → Prop} (ho : WeakOrder before kind)

omit ho in
theorem kind_swap {i j : Nat} (hi : i < n) (hj : j < n) (hkind : ∀ x ∈ heap, kind x) :
    ∀ x ∈ heap.swap i j, kind x :=
  fun x hx => hkind x ((Vector.swap_perm hi hj).mem_iff.1 hx)

include ho

theorem rising_sink (hkind : ∀ x ∈ heap, kind x) (hi : i < n) (h : Sinking before heap start i) :
    Rising before (sink before heap i).1 start (sink before heap i).2 ∧
      (sink before heap i).2 < n := by
  fun_induction sink before heap i with
  | case1 heap i hleaf => exact ⟨h.rising (firstChild?_eq_none hleaf), hi⟩
  | case2 heap i c hc hfirst ih =>
    obtain ⟨hchild, hlevel⟩ := firstChild?_eq_some ho hkind hfirst
    exact ih (kind_swap hi hc.2 hkind) hc.2 (h.swap hi hc.2 hchild hlevel)

theorem ordered_rise (hkind : ∀ x ∈ heap, kind x) (hi : i < n) (h : Rising before heap start i) :
    Ordered before (rise before start heap i) start := by
  fun_induction rise before start heap i with
  | case1 heap i hmid hlt ih =>
    obtain ⟨hchild, hunder⟩ := h.under.parent hmid.1
    have hparent : (i - 1) / 2 < n := hchild.lt.trans hi
    exact ih (kind_swap hi hparent hkind) hparent (h.swap ho hkind hunder hi hparent hchild hlt)
  | case2 heap i hmid hle =>
    apply h.ordered
    intro p _ hchild _ _
    obtain rfl := hchild.parent_eq
    exact Bool.eq_false_iff.2 hle
  | case3 heap i hout =>
    apply h.ordered
    intro p hp hchild
    have hlt := hchild.lt
    omega

theorem ordered_settle (hkind : ∀ x ∈ heap, kind x) (hi : i < n)
    (h : Ordered before heap (i + 1)) : Ordered before (settle before heap i) i := by
  have hsinking : Sinking before heap i i := by
    constructor
    case under => exact .refl
    case away => exact fun p c hp hc hpi _ => h p c (by omega) hc
    case across =>
      intro p c hp hip _
      have hlt := hip.lt
      omega
  obtain ⟨hrising, hleaf⟩ := rising_sink ho hkind hi hsinking
  have hkinds : ∀ x ∈ (sink before heap i).1, kind x :=
    fun x hx => hkind x ((sink_perm heap i).mem_iff.1 hx)
  exact ordered_rise ho hkinds hleaf hrising

theorem ordered_settleBelow {k : Nat} (hkind : ∀ x ∈ heap, kind x) (hk : k ≤ n)
    (h : Ordered before heap k) : Ordered before (settleBelow before heap k) 0 := by
  induction k generalizing heap with
  | zero => exact h
  | succ k ih =>
    apply ih
    · exact fun x hx => hkind x ((settle_perm heap k).mem_iff.1 hx)
    · omega
    · exact ordered_settle ho hkind (by omega) h

theorem ordered_heapify (hkind : ∀ x ∈ heap, kind x) : Ordered before (heapify before heap) 0 := by
  apply ordered_settleBelow ho hkind (by omega)
  intro p c hp hc _ hcn
  unfold IsChild at hc
  omega

theorem inOrder_root (hkind : ∀ x ∈ heap, kind x) (h : Ordered before heap 0) (i : Nat) :
    InOrder before heap 0 i := by
  induction i using Nat.strong_induction_on with
  | h i ih =>
    intro hn hi
    by_cases hzero : i = 0
    · subst hzero
      exact ho.irrefl (hkind _ (Vector.getElem_mem hi))
    · have hchild : IsChild i ((i - 1) / 2) := by unfold IsChild; omega
      have hparent := hchild.lt
      have hup := ih ((i - 1) / 2) hparent
      exact hup.trans ho hkind (hparent.trans hi) (h _ i (Nat.zero_le _) hchild) hn hi

theorem ordered_pop {heap : Vector β (n + 1)} (hkind : ∀ x ∈ heap, kind x)
    (h : Ordered before heap 0) : Ordered before (pop before heap).2 0 := by
  unfold pop
  split
  next hpos =>
    have hkinds : ∀ x ∈ heap.pop.set 0 heap.back, kind x := by
      intro x hx
      rw [← Vector.mem_toList_iff, Vector.toList_set] at hx
      apply hkind x
      rw [← Vector.mem_toList_iff, toList_eq_concat heap]
      rcases List.mem_or_eq_of_mem_set hx with hx | rfl
      · exact List.mem_append_left _ hx
      · simp
    have hrest : ∀ k (hk : k < n), 0 < k →
        (heap.pop.set 0 heap.back hpos : Vector β n)[k] = heap[k] := by
      intro k hk hk0
      exact (Vector.getElem_set_ne hpos hk hk0.ne).trans (Vector.getElem_pop hk)
    apply ordered_settle ho hkinds hpos
    intro p c hp hc hpn hcn
    rw [hrest p hpn hp, hrest c hcn (hp.trans_lt hc.lt).le]
    exact h p c (Nat.zero_le p) hc _ _
  next hzero =>
    intro p c _ _ hp
    omega

theorem pairwise_drain (hkind : ∀ x ∈ heap, kind x) (h : Ordered before heap 0) :
    (drain before heap).Pairwise fun x y => before y x = false := by
  induction n with
  | zero => exact .nil
  | succ n ih =>
    have hmem : ∀ x ∈ drain before (pop before heap).2, x ∈ heap := by
      intro x hx
      have hrest := (drain_perm _).mem_iff.1 hx
      exact Vector.mem_toList_iff.1 ((pop_perm heap).subset (List.mem_cons_of_mem _ hrest))
    have hkinds : ∀ x ∈ (pop before heap).2, kind x := by
      intro x hx
      apply hkind
      exact Vector.mem_toList_iff.1
        ((pop_perm heap).subset (List.mem_cons_of_mem _ (Vector.mem_toList_iff.2 hx)))
    refine List.pairwise_cons.2 ⟨fun x hx => ?_, ih hkinds (ordered_pop ho hkind h)⟩
    obtain ⟨i, hi, rfl⟩ := Vector.getElem_of_mem (hmem x hx)
    exact inOrder_root ho hkind h i (Nat.succ_pos n) hi

/-- The things of a vector, made a heap and drained, come in order. -/
theorem pairwise_drain_heapify (hkind : ∀ x ∈ heap, kind x) :
    (drain before (heapify before heap)).Pairwise fun x y => before y x = false := by
  apply pairwise_drain ho _ (ordered_heapify ho hkind)
  exact fun x hx => hkind x ((heapify_perm heap).mem_iff.1 hx)

end WeakOrder

end LaneRoute.Heap
