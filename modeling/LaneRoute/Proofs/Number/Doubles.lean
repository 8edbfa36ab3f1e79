import Mathlib
import LaneRoute.Proofs.Number.Ordered
import LaneRoute.Number.Double

/-!
# Doubles as ordered numbers

Doubles that are numbers are ordered by sign, exponent and significand, with the two zeros level.
A product or a root is rounded after its sign has been settled, so it is never below zero where
the exact value is not.
-/

set_option autoImplicit false

namespace LaneRoute.Double

open Float.Model (Format UnpackedFloat)
open Float.Model.UnpackedFloat

/-! ## Order -/

/-- Where a value stands: by sign, then by exponent and significand, which count backward below
zero. What is no number stands nowhere. -/
def place : UnpackedFloat → Option (Int ×ₗ Int ×ₗ Int)
  | .notANumber => none
  | .infinity .negative => some (toLex (-2, toLex (0, 0)))
  | .finite .negative m e _ => some (toLex (-1, toLex (-e, -m)))
  | .zero _ => some (toLex (0, toLex (0, 0)))
  | .finite .positive m e _ => some (toLex (1, toLex (e, m)))
  | .infinity .positive => some (toLex (2, toLex (0, 0)))

theorem compare_cast (m n : Nat) : compare (m : Int) (n : Int) = compare m n := by
  rcases lt_trichotomy m n with h | rfl | h
  · rw [compare_lt_iff_lt.2 h, compare_lt_iff_lt.2 (Int.ofNat_lt.2 h)]
  · rw [compare_eq_iff_eq.2 rfl, compare_eq_iff_eq.2 rfl]
  · rw [compare_gt_iff_gt.2 h, compare_gt_iff_gt.2 (Int.ofNat_lt.2 h)]

theorem compare_neg (i j : Int) : compare (-i) (-j) = (compare i j).swap := by
  rcases lt_trichotomy i j with h | rfl | h
  · rw [compare_lt_iff_lt.2 h, compare_gt_iff_gt.2 (Int.neg_lt_neg h)]
    rfl
  · rw [compare_eq_iff_eq.2 rfl, compare_eq_iff_eq.2 rfl]
    rfl
  · rw [compare_gt_iff_gt.2 h, compare_lt_iff_lt.2 (Int.neg_lt_neg h)]
    rfl

theorem compare_toLex (sign e m e' m' : Int) :
    compare (toLex (sign, toLex (e, m))) (toLex (sign, toLex (e', m'))) =
      (compare e e').then (compare m m') := by
  change (compare sign sign).then ((compare e e').then (compare m m')) = _
  rw [compare_eq_iff_eq.2 rfl]
  rfl

theorem compare_eq (u v : UnpackedFloat) :
    u.compare v = (place u).bind fun p => (place v).map fun q => compare p q := by
  -- only two finite values of one sign are not told apart by the kind of value alone
  rcases u with (_ | _) | _ | _ | ⟨(_ | _), m, e, hm⟩ <;>
    rcases v with (_ | _) | _ | _ | ⟨(_ | _), m', e', hm'⟩ <;>
      first
        | rfl
        | simp [UnpackedFloat.compare, place, compare_toLex, compare_cast, compare_neg,
            Ordering.swap_then]

def rank (x : Float) : Option (Int ×ₗ Int ×ₗ Int) := place x.toModel.unpack

theorem lt_iff_compare {x y : Float} :
    x < y ↔ x.toModel.unpack.compare y.toModel.unpack = some .lt := by
  have hlt : x < y ↔ (x.toModel.unpack.compare y.toModel.unpack == some .lt) = true :=
    decide_eq_true_iff
  rw [hlt, beq_iff_eq]

theorem lt_iff_rank {x y : Float} : x < y ↔ ∃ p ∈ rank x, ∃ q ∈ rank y, p < q := by
  rw [lt_iff_compare, compare_eq, rank, rank]
  cases place x.toModel.unpack <;> cases place y.toModel.unpack <;> simp [compare_lt_iff_lt]

theorem le_iff_rank {x y : Float} : x ≤ y ↔ ∃ p ∈ rank x, ∃ q ∈ rank y, p ≤ q := by
  have hle : x ≤ y ↔ (x.toModel.unpack.compare y.toModel.unpack).any (·.isLE) = true :=
    decide_eq_true_iff
  rw [hle, compare_eq, rank, rank]
  cases place x.toModel.unpack <;> cases place y.toModel.unpack <;>
    simp [Ordering.isLE_iff_ne_gt, compare_le_iff_le]

theorem isNumber_iff {x : Float} : Scalar.isNumber x = true ↔ ∃ p, rank x = some p := by
  rw [Scalar.isNumber, decide_eq_true_iff]
  constructor
  · intro h
    obtain ⟨p, hp, -⟩ := le_iff_rank.1 h
    exact ⟨p, hp⟩
  · rintro ⟨p, hp⟩
    exact le_iff_rank.2 ⟨p, hp, p, hp, le_refl p⟩

instance : OrderedNumbers Float where
  le_trans x y z hxy hyz := by
    obtain ⟨p, hp, q, hq, hpq⟩ := le_iff_rank.1 hxy
    obtain ⟨q', hq', r, hr, hqr⟩ := le_iff_rank.1 hyz
    obtain rfl : q = q' := Option.some.inj (hq.symm.trans hq')
    exact le_iff_rank.2 ⟨p, hp, r, hr, hpq.trans hqr⟩
  le_total x y hx hy := by
    obtain ⟨p, hp⟩ := isNumber_iff.1 hx
    obtain ⟨q, hq⟩ := isNumber_iff.1 hy
    rcases le_total p q with h | h
    · exact Or.inl (le_iff_rank.2 ⟨p, hp, q, hq, h⟩)
    · exact Or.inr (le_iff_rank.2 ⟨q, hq, p, hp, h⟩)
  lt_iff x y := by
    rw [lt_iff_rank, le_iff_rank, le_iff_rank]
    constructor
    · rintro ⟨p, hp, q, hq, hlt⟩
      refine ⟨⟨p, hp, q, hq, hlt.le⟩, ?_⟩
      rintro ⟨q', hq', p', hp', hle⟩
      obtain rfl : p = p' := Option.some.inj (hp.symm.trans hp')
      obtain rfl : q = q' := Option.some.inj (hq.symm.trans hq')
      exact hle.not_gt hlt
    · rintro ⟨⟨p, hp, q, hq, -⟩, hnot⟩
      exact ⟨p, hp, q, hq, not_le.1 fun hle => hnot ⟨q, hq, p, hp, hle⟩⟩
  isNumber_of_le x y h := by
    obtain ⟨p, hp, -⟩ := le_iff_rank.1 h
    exact isNumber_iff.2 ⟨p, hp⟩
  isNumber_of_isBounded x h := by
    obtain ⟨p, hp, -⟩ := lt_iff_rank.1 (of_decide_eq_true h)
    exact isNumber_iff.2 ⟨p, hp⟩
  isNumber_zero := by decide +kernel
  isNumber_unreachable := by decide +kernel

/-! ## Signs -/

def isBelow : UnpackedFloat → Bool
  | .infinity .negative | .finite .negative .. => true
  | _ => false

theorem lt_zero_iff {x : Float} : x < 0 ↔ isBelow x.toModel.unpack = true := by
  have hzero : (0 : Float).toModel.unpack = .zero .positive := by
    have hbits : (0 : Float).toModel.toBits = 0 := by decide +kernel
    rw [Float.Model.unpack, hbits]
    rfl
  rw [lt_iff_compare, hzero]
  rcases x.toModel.unpack with (_ | _) | _ | _ | ⟨(_ | _), m, e, hm⟩ <;>
    simp [UnpackedFloat.compare, isBelow]

theorem isBelow_packComponents {spec : Format} (e : BitVec spec.exponentBits)
    (m : BitVec spec.mantissaBitsWithoutImplicit) :
    isBelow (unpack spec (packComponents spec .positive e m)) = false := by
  have hsign : Sign.ofBitVec (unpackSign (packComponents spec .positive e m)) = .positive := by
    rw [unpackSign_packComponents]
    rfl
  unfold unpack
  simp only [hsign]
  split
  · split <;> rfl
  · split
    · split <;> rfl
    · rfl

/-- What is not below zero is packed as a zero or with the sign of what is above. -/
theorem pack_of_isBelow {u : UnpackedFloat} (h : isBelow u = false) (spec : Format) :
    (∃ sign, pack spec u = packedZero spec sign) ∨
      ∃ e m, pack spec u = packComponents spec .positive e m := by
  rcases u with (_ | _) | _ | sign | ⟨(_ | _), m, e, hm⟩
  · contradiction
  · exact Or.inr ⟨_, _, rfl⟩
  · exact Or.inr ⟨_, _, rfl⟩
  · exact Or.inl ⟨sign, rfl⟩
  · contradiction
  · right
    simp only [pack]
    split
    · exact ⟨_, _, rfl⟩
    · split
      · exact ⟨_, _, rfl⟩
      · exact ⟨_, _, rfl⟩

theorem isBelow_unpack_pack {u : UnpackedFloat} (h : isBelow u = false) :
    isBelow (Float.Model.pack u).unpack = false := by
  change isBelow (unpack Format.binary64 (pack Format.binary64 u)) = false
  rcases pack_of_isBelow h Format.binary64 with ⟨sign, hpack⟩ | ⟨e, m, hpack⟩
  · rw [hpack]
    cases sign <;> rfl
  · rw [hpack]
    exact isBelow_packComponents e m

theorem isBelow_roundWithAccuracy (spec : Format) (m : Nat) (e : Int) (accuracy : Accuracy) :
    isBelow (roundWithAccuracy spec .positive m e accuracy) = false := by
  unfold roundWithAccuracy
  dsimp only
  split <;> rfl

theorem isBelow_mul {spec : Format} {u v : UnpackedFloat} (hu : isBelow u = false)
    (hv : isBelow v = false) : isBelow (UnpackedFloat.mul spec u v) = false := by
  rcases u with (_ | _) | _ | _ | ⟨(_ | _), m, e, hm⟩ <;>
    rcases v with (_ | _) | _ | _ | ⟨(_ | _), m', e', hm'⟩ <;>
      first
        | contradiction
        | rfl
        | exact isBelow_roundWithAccuracy _ _ _ _

theorem isBelow_sqrt (spec : Format) (u : UnpackedFloat) :
    isBelow (UnpackedFloat.sqrt spec u) = false := by
  rcases u with (_ | _) | _ | _ | ⟨(_ | _), m, e, hm⟩ <;>
    first
      | rfl
      | exact isBelow_roundWithAccuracy _ _ _ _

theorem isBelow_neg {u : UnpackedFloat} (h : isBelow u = true) : isBelow u.neg = false := by
  rcases u with (_ | _) | _ | _ | ⟨(_ | _), m, e, hm⟩ <;>
    first
      | contradiction
      | rfl

theorem not_lt_zero {u : UnpackedFloat} (h : isBelow u = false) :
    ¬ Float.ofModel (Float.Model.pack u) < 0 := by
  rw [lt_zero_iff, isBelow_unpack_pack h]
  exact Bool.false_ne_true

instance : RoundedNumbers Float where
  isBounded_zero := by decide +kernel
  isBounded_of_le x y hle hy := by
    obtain ⟨p, hp, q, hq, hpq⟩ := le_iff_rank.1 hle
    obtain ⟨q', hq', r, hr, hqr⟩ := lt_iff_rank.1 (of_decide_eq_true hy)
    obtain rfl : q = q' := Option.some.inj (hq.symm.trans hq')
    exact decide_eq_true (lt_iff_rank.2 ⟨p, hp, r, hr, hpq.trans_lt hqr⟩)
  mul_not_neg x y hx hy := by
    rw [lt_zero_iff, Bool.not_eq_true] at hx hy
    exact not_lt_zero (isBelow_mul hx hy)
  neg_not_neg x h := not_lt_zero (isBelow_neg (lt_zero_iff.1 h))
  sqrt_not_neg x := not_lt_zero (isBelow_sqrt _ _)
  eighth_not_neg := by decide +kernel
  unreachable_not_neg := by decide +kernel

end LaneRoute.Double
