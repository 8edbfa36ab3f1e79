import Mathlib.Data.List.MinMax

/-!
# Weak orders

Strict comparisons that have ties. What compares as doubles do is ordered like this only as long
as everything is a number, so an order is one of the things of a kind. A loop that keeps the
best thing so far, and replaces it only by one that comes before it, ends with the first of the
least things.
-/

set_option autoImplicit false

namespace LaneRoute

variable {β γ : Type}

/-- Among the things of a kind, what comes before what is never mutual, and a third thing comes
after the one or before the other. -/
structure WeakOrder (before : β → β → Bool) (kind : β → Prop) : Prop where
  asymm : ∀ x y, kind x → kind y → before x y = true → before y x = false
  apart : ∀ x y z, kind x → kind y → kind z → before x z = true →
    before x y = true ∨ before y z = true

namespace WeakOrder

variable {before : β → β → Bool} {kind : β → Prop} (ho : WeakOrder before kind)

include ho

theorem irrefl {x : β} (hx : kind x) : before x x = false := by
  by_contra h
  have hself := ho.asymm x x hx hx (Bool.eq_true_of_not_eq_false h)
  exact h hself

theorem lt_of_lt_of_le {x y z : β} (hx : kind x) (hy : kind y) (hz : kind z)
    (hxy : before x y = true) (hzy : before z y = false) : before x z = true := by
  rcases ho.apart x z y hx hz hy hxy with h | h
  · exact h
  · rw [hzy] at h
    cases h

theorem le_trans {x y z : β} (hx : kind x) (hy : kind y) (hz : kind z)
    (hyx : before y x = false) (hzy : before z y = false) : before z x = false := by
  by_contra h
  rcases ho.apart z y x hz hy hx (Bool.eq_true_of_not_eq_false h) with h | h
  · rw [hzy] at h
    cases h
  · rw [hyx] at h
    cases h

end WeakOrder

theorem weakOrder_of_key [LinearOrder γ] (key : β → γ) (kind : β → Prop) :
    WeakOrder (fun x y => decide (key x < key y)) kind where
  asymm x y _ _ h := by
    rw [decide_eq_true_iff] at h
    exact decide_eq_false (lt_asymm h)
  apart x y z _ _ _ h := by
    simp only [decide_eq_true_iff] at h ⊢
    exact (lt_or_ge (key x) (key y)).imp_right fun hle => hle.trans_lt h

/-! ## Sorted lists -/

namespace WeakOrder

variable {before : β → β → Bool} {kind : β → Prop} (ho : WeakOrder before kind) {xs : List β}

include ho

/-- A list of things of the kind is sorted by the comparison that lets ties stand. -/
theorem pairwise_mergeSort {le : β → β → Bool} (hkind : ∀ x ∈ xs, kind x)
    (hle : ∀ x y, kind x → kind y → (le x y = true ↔ before y x = false)) :
    (xs.mergeSort le).Pairwise fun x y => before y x = false := by
  -- the comparison is a total order on the things of the kind only
  have hsort : ((xs.attachWith kind hkind).mergeSort fun x y => le x.1 y.1).map Subtype.val =
      xs.mergeSort le := by
    rw [List.map_mergeSort (s := le) (by simp), List.attachWith_map_subtype_val]
  rw [← hsort, List.pairwise_map]
  apply List.Pairwise.imp (fun {x y} h => (hle x.1 y.1 x.2 y.2).1 h)
  apply List.pairwise_mergeSort
  · intro x y z hxy hyz
    rw [hle _ _ x.2 y.2] at hxy
    rw [hle _ _ y.2 z.2] at hyz
    exact (hle _ _ x.2 z.2).2 (ho.le_trans x.2 y.2 z.2 hxy hyz)
  · intro x y
    rw [Bool.or_eq_true, hle _ _ x.2 y.2, hle _ _ y.2 x.2]
    by_cases h : before y.1 x.1 = true
    · exact Or.inr (ho.asymm _ _ y.2 x.2 h)
    · exact Or.inl (Bool.eq_false_iff.2 h)

end WeakOrder

theorem eq_of_perm_of_pairwise {before : β → β → Bool} {xs ys : List β}
    (hties : ∀ x ∈ xs, ∀ y ∈ xs, before x y = false → before y x = false → x = y)
    (hx : xs.Pairwise fun x y => before y x = false)
    (hy : ys.Pairwise fun x y => before y x = false) (h : xs.Perm ys) : xs = ys := by
  refine List.Perm.eq_of_pairwise (fun x y hxs hys hxy hyx => ?_) hx hy h
  exact hties x hxs y (h.symm.subset hys) hyx hxy

/-! ## First least things -/

/-- A thing of a list that comes before all earlier ones, and that no later one comes before. -/
def IsFirstLeast (before : β → β → Bool) (xs : List β) (x : β) : Prop :=
  ∃ earlier later, xs = earlier ++ x :: later ∧ (∀ y ∈ earlier, before x y = true) ∧
    ∀ y ∈ later, before y x = false

theorem isFirstLeast_singleton (before : β → β → Bool) (x : β) : IsFirstLeast before [x] x :=
  ⟨[], [], rfl, by simp, by simp⟩

theorem IsFirstLeast.mem {before : β → β → Bool} {xs : List β} {x : β}
    (h : IsFirstLeast before xs x) : x ∈ xs := by
  obtain ⟨earlier, later, rfl, -, -⟩ := h
  simp

theorem isFirstLeast_cons {before : β → β → Bool} {xs : List β} {x y : β} :
    IsFirstLeast before (x :: xs) y ↔
      (x = y ∧ ∀ z ∈ xs, before z y = false) ∨ before y x = true ∧ IsFirstLeast before xs y := by
  constructor
  · rintro ⟨earlier, later, hxs, hearlier, hlater⟩
    cases earlier with
    | nil =>
      obtain ⟨rfl, rfl⟩ := List.cons.inj hxs
      exact Or.inl ⟨rfl, hlater⟩
    | cons z earlier =>
      obtain ⟨rfl, rfl⟩ := List.cons.inj hxs
      obtain ⟨hfirst, hrest⟩ := List.forall_mem_cons.1 hearlier
      exact Or.inr ⟨hfirst, earlier, later, rfl, hrest, hlater⟩
  · rintro (⟨rfl, hlater⟩ | ⟨hfirst, earlier, later, rfl, hearlier, hlater⟩)
    · exact ⟨[], xs, rfl, by simp, hlater⟩
    · exact ⟨x :: earlier, later, rfl, List.forall_mem_cons.2 ⟨hfirst, hearlier⟩, hlater⟩

theorem isFirstLeast_map {before : γ → γ → Bool} {f : β → γ} {xs : List β} {y : γ} :
    IsFirstLeast before (xs.map f) y ↔
      ∃ x, f x = y ∧ IsFirstLeast (fun x x' => before (f x) (f x')) xs x := by
  constructor
  · rintro ⟨earlier, later, hxs, hearlier, hlater⟩
    obtain ⟨us, vs, rfl, rfl, hvs⟩ := List.map_eq_append_iff.1 hxs
    obtain ⟨x, ws, rfl, rfl, rfl⟩ := List.map_eq_cons_iff.1 hvs
    exact ⟨x, rfl, us, ws, rfl, by simpa using hearlier, by simpa using hlater⟩
  · rintro ⟨x, rfl, us, ws, rfl, hus, hws⟩
    exact ⟨us.map f, ws.map f, by simp, by simpa using hus, by simpa using hws⟩

theorem IsFirstLeast.filter {before : β → β → Bool} {keep : β → Bool} {xs : List β} {x : β}
    (h : IsFirstLeast before xs x) (hx : keep x = true) :
    IsFirstLeast before (xs.filter keep) x := by
  obtain ⟨earlier, later, rfl, hearlier, hlater⟩ := h
  refine ⟨earlier.filter keep, later.filter keep, ?_, ?_, ?_⟩
  · rw [List.filter_append, List.filter_cons_of_pos hx]
  · exact fun y hy => hearlier y (List.mem_filter.1 hy).1
  · exact fun y hy => hlater y (List.mem_filter.1 hy).1

namespace WeakOrder

variable {before : β → β → Bool} {kind : β → Prop} (ho : WeakOrder before kind) {xs : List β}

include ho

theorem least_of_isFirstLeast (hkind : ∀ y ∈ xs, kind y) {x : β} (h : IsFirstLeast before xs x) :
    ∀ y ∈ xs, before y x = false := by
  have hx := hkind x h.mem
  obtain ⟨earlier, later, rfl, hearlier, hlater⟩ := h
  intro y hy
  rcases List.mem_append.1 hy with hy' | hy'
  · exact ho.asymm x y hx (hkind y hy) (hearlier y hy')
  · rcases List.mem_cons.1 hy' with rfl | hy'
    · exact ho.irrefl hx
    · exact hlater y hy'

theorem isFirstLeast_concat (hkind : ∀ y ∈ xs, kind y) {x y : β} (hy : kind y)
    (h : IsFirstLeast before xs x) :
    IsFirstLeast before (xs ++ [y]) (if before y x = true then y else x) := by
  have hx := hkind x h.mem
  have hleast := ho.least_of_isFirstLeast hkind h
  split
  next hyx =>
    refine ⟨xs, [], rfl, fun z hz => ?_, by simp⟩
    exact ho.lt_of_lt_of_le hy hx (hkind z hz) hyx (hleast z hz)
  next hyx =>
    obtain ⟨earlier, later, rfl, hearlier, hlater⟩ := h
    refine ⟨earlier, later ++ [y], by simp, hearlier, fun z hz => ?_⟩
    rcases List.mem_append.1 hz with hz | hz
    · exact hlater z hz
    · exact List.mem_singleton.1 hz ▸ Bool.eq_false_iff.2 hyx

theorem isFirstLeast_unique (hkind : ∀ y ∈ xs, kind y) {x y : β} (hx : IsFirstLeast before xs x)
    (hy : IsFirstLeast before xs y) : x = y := by
  have hxleast := ho.least_of_isFirstLeast hkind hx
  have hyleast := ho.least_of_isFirstLeast hkind hy
  obtain ⟨earlier, later, rfl, hearlier, -⟩ := hx
  obtain ⟨earlier', later', heq, hearlier', -⟩ := hy
  -- of two different places, the thing at the later one would come before the other
  rcases List.append_eq_append_iff.1 heq with ⟨between, rfl, hrest⟩ | ⟨between, rfl, hrest⟩
  · cases between with
    | nil => exact (List.cons.inj hrest).1
    | cons z between =>
      obtain ⟨rfl, -⟩ := List.cons.inj hrest
      have hlt := hearlier' x (by simp)
      rw [hxleast y (by simp [heq])] at hlt
      cases hlt
  · cases between with
    | nil => exact (List.cons.inj hrest).1.symm
    | cons z between =>
      obtain ⟨rfl, -⟩ := List.cons.inj hrest
      have hlt := hearlier y (by simp)
      rw [hyleast x (by simp)] at hlt
      cases hlt

theorem exists_foldl (hkind : ∀ y ∈ xs, kind y) (hne : xs ≠ []) : ∃ least,
    xs.foldl (List.argAux fun x y => before x y = true) none = some least ∧
      IsFirstLeast before xs least := by
  induction xs using List.reverseRecOn with
  | nil => exact absurd rfl hne
  | append_singleton xs y ih =>
    have hkinds : ∀ z ∈ xs, kind z := fun z hz => hkind z (by simp [hz])
    by_cases hxs : xs = []
    · subst hxs
      exact ⟨y, rfl, isFirstLeast_singleton before y⟩
    · obtain ⟨least, hleast, hfirst⟩ := ih hkinds hxs
      refine ⟨_, ?_, ho.isFirstLeast_concat hkinds (hkind y (by simp)) hfirst⟩
      rw [List.foldl_append, hleast]
      by_cases hy : before y least = true <;> simp [List.argAux, hy]

/-- A loop that replaces the best thing only by one before it ends with the first least one. -/
theorem foldl_eq_some_iff (hkind : ∀ y ∈ xs, kind y) {x : β} :
    xs.foldl (List.argAux fun x y => before x y = true) none = some x ↔
      IsFirstLeast before xs x := by
  constructor
  · intro h
    have hne : xs ≠ [] := by
      rintro rfl
      cases h
    obtain ⟨least, hleast, hfirst⟩ := ho.exists_foldl hkind hne
    rw [hleast] at h
    exact Option.some.inj h ▸ hfirst
  · intro h
    obtain ⟨least, hleast, hfirst⟩ := ho.exists_foldl hkind (List.ne_nil_of_mem h.mem)
    rw [hleast, ho.isFirstLeast_unique hkind h hfirst]

end WeakOrder

end LaneRoute
