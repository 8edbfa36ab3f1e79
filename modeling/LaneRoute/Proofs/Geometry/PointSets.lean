import Mathlib.Data.Set.Lattice
import LaneRoute.Geometry.Region
import LaneRoute.Proofs.Fallible
import LaneRoute.Proofs.Number.Rational

/-!
# Regions as sets of points

What is asked of areas when they are united and compared without rounding. A boundary stands
for the points that it encloses, none when it encloses nothing; a region has the points of its
areas, and an area lies inside a region when all of its points do.
-/

set_option autoImplicit false

namespace LaneRoute

/-- Scalars in which all areas can be united and compared. -/
class Faultless (α : Type) [Planar α] : Prop where
  isSound (ring : Ring α) : Planar.isSound ring = true
  exists_covers (region : Region α) (ring : Ring α) : ∃ inside, Planar.covers region ring = .ok inside

namespace Region

variable {α : Type}

def pointsOf (shape : Ring α → Set (Point α)) : Region α → Set (Point α)
  | empty => ∅
  | single ring => shape ring
  | union rings => ⋃ ring ∈ rings, shape ring

end Region

/-- Scalars in which areas are sets of points, united and compared as sets. -/
class PointSets (α : Type) [Planar α] extends Faultless α where
  points : Ring α → Set (Point α)
  points_of_not_hasExtent (ring : Ring α) : Planar.hasExtent ring = false → points ring = ∅
  covers_iff (region : Region α) (ring : Ring α) :
    Planar.covers region ring = .ok true ↔ points ring ⊆ region.pointsOf points

namespace Region

variable {α : Type} [Planar α]

section Faults

variable [Faultless α]

theorem isSound_eq_true (region : Region α) : region.isSound = true := by
  cases region with
  | empty => rfl
  | single ring => exact Faultless.isSound ring
  | union rings => rfl

theorem exists_ofRings (rings : List (Ring α)) : ∃ region, ofRings rings = .ok region := by
  match rings with
  | [] => exact ⟨_, rfl⟩
  | [ring] => exact ⟨_, rfl⟩
  | first :: second :: rest =>
    have hsound : (first :: second :: rest).all Planar.isSound = true :=
      List.all_eq_true.2 fun ring _ => Faultless.isSound ring
    exact ⟨_, if_pos hsound⟩

theorem exists_unite (a b : Region α) : ∃ region, a.unite b = .ok region := by
  have hsound : (a.isSound && b.isSound) = true := by
    rw [isSound_eq_true a, isSound_eq_true b, Bool.and_self]
  unfold unite
  split
  · exact ⟨_, rfl⟩
  · exact ⟨_, rfl⟩
  · exact ⟨_, if_pos hsound⟩

end Faults

section Points

variable [PointSets α]

def points : Region α → Set (Point α) := pointsOf PointSets.points

def ground (rings : List (Ring α)) : Set (Point α) := ⋃ ring ∈ rings, PointSets.points ring

theorem mem_ground {rings : List (Ring α)} {p : Point α} :
    p ∈ ground rings ↔ ∃ ring ∈ rings, p ∈ PointSets.points ring := by
  simp [ground]

@[simp] theorem ground_nil : ground ([] : List (Ring α)) = ∅ := by simp [ground]

theorem points_empty : (empty : Region α).points = ground [] := ground_nil.symm

theorem points_single (ring : Ring α) : (single ring).points = ground [ring] := by
  simp [points, pointsOf, ground]

theorem ground_append (rings more : List (Ring α)) :
    ground (rings ++ more) = ground rings ∪ ground more := by
  ext p
  simp [mem_ground, or_and_right, exists_or]

theorem ground_filter_hasExtent (rings : List (Ring α)) :
    ground (rings.filter Planar.hasExtent) = ground rings := by
  ext p
  rw [mem_ground, mem_ground]
  constructor
  · rintro ⟨ring, hring, hp⟩
    exact ⟨ring, (List.mem_filter.1 hring).1, hp⟩
  · rintro ⟨ring, hring, hp⟩
    have hextent : Planar.hasExtent ring = true := by
      by_contra hflat
      rw [PointSets.points_of_not_hasExtent ring (by simpa using hflat)] at hp
      exact hp
    exact ⟨ring, List.mem_filter.2 ⟨hring, hextent⟩, hp⟩

theorem points_dissolved (rings : List (Ring α)) : (dissolved rings).points = ground rings := by
  cases rings with
  | nil => exact points_empty
  | cons ring rings => rfl

theorem ground_substance (region : Region α) : ground region.substance = region.points := by
  cases region with
  | empty => exact points_empty.symm
  | single ring => rw [substance, ground_filter_hasExtent, points_single]
  | union rings => rfl

theorem points_ofRings {rings : List (Ring α)} {region : Region α}
    (h : ofRings rings = .ok region) : region.points = ground rings := by
  unfold ofRings at h
  split at h
  · rw [← Except.ok.inj h, points_empty]
  · rw [← Except.ok.inj h, points_single]
  · split at h
    · rw [← Except.ok.inj h, points_dissolved, ground_filter_hasExtent]
    · cases h

theorem points_unite {a b region : Region α} (h : a.unite b = .ok region) :
    region.points = a.points ∪ b.points := by
  unfold unite at h
  split at h
  · rw [← Except.ok.inj h]
    exact (Set.empty_union _).symm
  · rw [← Except.ok.inj h]
    exact (Set.union_empty _).symm
  · split at h
    · rw [← Except.ok.inj h, points_dissolved, ground_append, ground_substance, ground_substance]
    · cases h

end Points

end Region

/-! ## Rectangles -/

namespace Rational

instance : Faultless Rat where
  isSound _ := rfl
  exists_covers _ _ := ⟨_, rfl⟩

def boxPoints (ring : Ring Rat) : Set (Point Rat) := {p | ring.box.holds p = true}

theorem boxPoints_subset {inner outer : Ring Rat} (h : outer.box.holdsBox inner.box = true) :
    boxPoints inner ⊆ boxPoints outer := by
  intro p hp
  change inner.box.holds p = true at hp
  change outer.box.holds p = true
  simp only [Ring.Box.holdsBox, Ring.Box.holds, Bool.and_eq_true, decide_eq_true_eq] at h hp ⊢
  obtain ⟨⟨⟨hleft, hright⟩, hlow⟩, hhigh⟩ := h
  obtain ⟨⟨⟨hfrom, hto⟩, hbottom⟩, htop⟩ := hp
  exact ⟨⟨⟨hleft.trans hfrom, hto.trans hright⟩, hlow.trans hbottom⟩, htop.trans hhigh⟩

open Classical in
/-- Areas compared by the rectangles around them, as sets of points. For upright rectangles
this is exact also where an area lies across several parts of a region. -/
@[reducible] noncomputable def pointwise : Planar Rat where
  isSound _ := true
  hasExtent _ := true
  covers region ring := .ok (decide (boxPoints ring ⊆ region.pointsOf boxPoints))
  enclosed := id

@[reducible] noncomputable def pointSets : @PointSets Rat pointwise :=
  letI := pointwise
  { isSound := fun _ => rfl
    exists_covers := fun _ _ => ⟨_, rfl⟩
    points := boxPoints
    points_of_not_hasExtent := fun _ h => by cases h
    covers_iff := fun _ _ => by
      change Except.ok _ = Except.ok _ ↔ _
      rw [Except.ok.injEq]
      exact @decide_eq_true_iff _ (Classical.propDecidable _) }

end Rational

end LaneRoute
