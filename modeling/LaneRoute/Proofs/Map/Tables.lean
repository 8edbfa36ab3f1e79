import LaneRoute.Map.Table
import LaneRoute.Proofs.Map.Checks

/-!
# Lists of points

Reading a list of points whose coordinates are numbers. It is a table when all points have equally
many coordinates. Then each coordinate is read, and what can go wrong is that a whole number is
beyond all doubles. A bound needs two points besides.
-/

set_option autoImplicit false

namespace LaneRoute

open Fallible (Yields)
open Check (Made made_one)

namespace Fault

def isReport : Fault → Bool
  | .map _ => true
  | _ => false

/-- Faults in the values of a segment come to be reported with the id of the segment. -/
def isBlamed : Fault → Bool
  | .badValue => true
  | .shortBound _ => true
  | fault => fault.isReport

end Fault

variable {tells : Fault → Bool}

namespace Document

def IsNumber : Document → Prop
  | .int _ => True
  | .real _ => True
  | _ => False

def Overflows (d : Document) : Prop := d.toReal = .error .tooLarge

theorem toReal_made {d : Document} (h : d.IsNumber) :
    Made tells [⟨d.Overflows, tells .tooLarge⟩] (fun x => d.toReal = .ok x) d.toReal := by
  apply made_one
  match d, h with
  | .int i, _ =>
    simp only [Overflows, toReal, realOfInt]
    split
    · exact ⟨rfl, rfl⟩
    · exact ⟨by simp, rfl⟩
  | .real x, _ => exact ⟨by simp [Overflows, toReal], rfl⟩

end Document

abbrev WrittenPoints := List (List Document)

namespace WrittenPoints

def document (points : WrittenPoints) : Document := .list (points.map .list)

def Numeric (points : WrittenPoints) : Prop := ∀ point ∈ points, ∀ d ∈ point, d.IsNumber

def Even (width : Nat) (points : WrittenPoints) : Prop := ∀ point ∈ points, point.length = width

/-- Some point has more coordinates than another. -/
def Uneven (points : WrittenPoints) : Prop := ∀ width, ¬ points.Even width

/-- Some point has too few coordinates for a place in the plane. -/
def Narrow (points : WrittenPoints) : Prop := ∃ point ∈ points, point.length < 2

/-- There are too few points, or one of them has too few coordinates for a place in the plane. -/
def Scant (least : Nat) (points : WrittenPoints) : Prop :=
  points.length < least ∨ points.Narrow

def Overflows (points : WrittenPoints) : Prop := ∃ point ∈ points, ∃ d ∈ point, d.Overflows

def BeginsAt (points : WrittenPoints) (p : Point Float) : Prop :=
  ∃ x y rest more, points = (x :: y :: rest) :: more ∧ x.toReal = .ok p.x ∧ y.toReal = .ok p.y

/-- The first point has a place that is not equal to itself. -/
def BeginsNowhere (points : WrittenPoints) : Prop :=
  ∃ p, points.BeginsAt p ∧ Point.agrees p p = false

theorem document_inj {points others : WrittenPoints} (h : points.document = others.document) :
    points = others := by
  have hinj : Function.Injective Document.list := fun a b hab => by simpa using hab
  exact (List.map_injective_iff.2 hinj) (by simpa [document] using h)

theorem Even.narrow_iff {width : Nat} {points : WrittenPoints} (heven : points.Even width)
    (hne : points ≠ []) : points.Narrow ↔ width < 2 := by
  constructor
  · rintro ⟨point, hpoint, hshort⟩
    rwa [heven point hpoint] at hshort
  · intro hwidth
    obtain ⟨point, hpoint⟩ := List.exists_mem_of_ne_nil points hne
    exact ⟨point, hpoint, by rwa [heven point hpoint]⟩

theorem BeginsAt.unique {points : WrittenPoints} {p q : Point Float} (hp : points.BeginsAt p)
    (hq : points.BeginsAt q) : p = q := by
  obtain ⟨x, y, rest, more, rfl, hx, hy⟩ := hp
  obtain ⟨x', y', rest', more', heq, hx', hy'⟩ := hq
  simp only [List.cons.injEq] at heq
  obtain ⟨⟨rfl, rfl, -⟩, -⟩ := heq
  rw [hx, Except.ok.injEq] at hx'
  rw [hy, Except.ok.injEq] at hy'
  exact congrArg₂ Point.mk hx' hy'

end WrittenPoints

namespace Table

/-! ## Extents -/

theorem shapes?_numbers {point : List Document} (h : ∀ d ∈ point, d.IsNumber) :
    shapes? point = some (point.map fun _ => []) := by
  induction point with
  | nil => rfl
  | cons d point ih =>
    have hd : shape? d = some [] := by
      match d, h d (by simp) with
      | .int i, _ => rfl
      | .real x, _ => rfl
    rw [shapes?, hd, ih fun other hother => h other (by simp [hother])]
    rfl

theorem shape?_point {point : List Document} (h : ∀ d ∈ point, d.IsNumber) :
    shape? (.list point) = some [point.length] := by
  rw [shape?, shapes?_numbers h]
  cases point with
  | nil => rfl
  | cons d point => simp

theorem shapes?_points {points : WrittenPoints} (h : points.Numeric) :
    shapes? (points.map .list) = some (points.map fun point => [point.length]) := by
  induction points with
  | nil => rfl
  | cons point points ih =>
    rw [List.map_cons, shapes?, shape?_point (h point (by simp)),
      ih fun other hother => h other (by simp [hother])]
    rfl

/-- Points have an extent for their number and one for their coordinates, if these are equally
many; without points there is no second one. -/
theorem shape?_document {points : WrittenPoints} (h : points.Numeric) :
    (points = [] ∧ shape? points.document = some [0]) ∨
    (∃ width, points.Even width ∧ points ≠ [] ∧
      shape? points.document = some [points.length, width]) ∨
    ((∀ width, ¬ points.Even width) ∧ shape? points.document = none) := by
  cases points with
  | nil => exact Or.inl ⟨rfl, rfl⟩
  | cons first rest =>
    have hshape : shape? (WrittenPoints.document (first :: rest)) =
        if rest.all (·.length = first.length) then some [rest.length + 1, first.length]
        else none := by
      rw [WrittenPoints.document, shape?, shapes?_points h]
      simp
    by_cases heven : rest.all (·.length = first.length) = true
    · refine Or.inr (Or.inl ⟨first.length, ?_, by simp, hshape.trans (if_pos heven)⟩)
      intro point hpoint
      rcases List.mem_cons.1 hpoint with rfl | hpoint
      · rfl
      · exact of_decide_eq_true (List.all_eq_true.1 heven point hpoint)
    · refine Or.inr (Or.inr ⟨fun width hwidth => heven ?_, hshape.trans (if_neg heven)⟩)
      rw [List.all_eq_true]
      intro point hpoint
      have hfirst := hwidth first (by simp)
      have hother := hwidth point (by simp [hpoint])
      exact decide_eq_true (hother.trans hfirst.symm)

/-! ## Coordinates -/

theorem allLeaves_numbers {point : List Document} (h : ∀ d ∈ point, d.IsNumber) :
    allLeaves point = point := by
  induction point with
  | nil => rfl
  | cons d point ih =>
    have hd : leaves d = [d] := by
      match d, h d (by simp) with
      | .int i, _ => rfl
      | .real x, _ => rfl
    rw [allLeaves, hd, ih fun other hother => h other (by simp [hother])]
    rfl

theorem leaves_document {points : WrittenPoints} (h : points.Numeric) :
    leaves points.document = points.flatten := by
  rw [WrittenPoints.document, leaves]
  induction points with
  | nil => rfl
  | cons point points ih =>
    rw [List.map_cons, allLeaves, leaves, allLeaves_numbers (h point (by simp)),
      ih fun other hother => h other (by simp [hother])]
    rfl

def Values (ds : List Document) (xs : List Float) : Prop :=
  List.Forall₂ (fun d x => d.toReal = .ok x) ds xs

theorem Values.not_overflows {ds : List Document} {xs : List Float} (h : Values ds xs) :
    ∀ d ∈ ds, ¬ d.Overflows := by
  induction h with
  | nil => simp
  | cons hd _ ih =>
    refine List.forall_mem_cons.2 ⟨fun hlarge => ?_, ih⟩
    cases hd.symm.trans hlarge

theorem values_made {points : WrittenPoints} (h : points.Numeric) :
    Made tells [⟨points.Overflows, tells .tooLarge⟩] (Values points.flatten)
      ((leaves points.document).mapM leaf) := by
  rw [leaves_document h]
  have hall : Yields (Values points.flatten)
      (fun fault => points.Overflows ∧ tells fault = tells .tooLarge)
      (points.flatten.mapM leaf) := by
    apply Fallible.yields_mapM
    intro d hd
    obtain ⟨point, hpoint, hd⟩ := List.mem_flatten.1 hd
    have hnumber := h point hpoint d hd
    have hleaf : leaf d = d.toReal := by
      match d, hnumber with
      | .int i, _ => rfl
      | .real x, _ => rfl
    rw [hleaf]
    exact (Document.toReal_made hnumber).imp_one fun hlarge => ⟨point, hpoint, d, hd, hlarge⟩
  refine made_one (hall.imp (fun xs hxs => ⟨?_, hxs⟩) fun _ hfault => hfault)
  rintro ⟨point, hpoint, d, hd, hlarge⟩
  exact hxs.not_overflows d (List.mem_flatten.2 ⟨point, hpoint, hd⟩) hlarge

/-! ## Tables of points -/

/-- A table has the points that were read: their coordinates one after another, and their number
and that of their coordinates as its extents. -/
structure ReadFrom (points : WrittenPoints) (t : Table) : Prop where
  values : Values points.flatten t.values
  shape : (points = [] ∧ t.shape = [0]) ∨
    ∃ width, points.Even width ∧ points ≠ [] ∧ t.shape = [points.length, width]

def readChecks (tells : Fault → Bool) (points : WrittenPoints) : List Check :=
  [⟨points.Uneven, tells .badValue⟩, ⟨points.Overflows, tells .tooLarge⟩]

theorem read_made {points : WrittenPoints} (h : points.Numeric) :
    Made tells (readChecks tells points) (ReadFrom points) (read points.document) := by
  have heven : ∀ shape : List Nat, ¬ points.Uneven → ((points = [] ∧ shape = [0]) ∨
        ∃ width, points.Even width ∧ points ≠ [] ∧ shape = [points.length, width]) →
      Made tells (readChecks tells points) (ReadFrom points)
        (do return ⟨shape, ← (leaves points.document).mapM leaf⟩) := by
    intro shape heven hshape
    exact Made.later heven ((values_made h).then fun values hread =>
      Check.made_pure ⟨hread, hshape⟩)
  rw [read]
  rcases shape?_document h with ⟨rfl, hshape⟩ | ⟨width, hwidth, hne, hshape⟩ | ⟨huneven, hshape⟩
  · rw [hshape]
    exact heven [0] (fun huneven => huneven 0 (by simp [WrittenPoints.Even])) (Or.inl ⟨rfl, rfl⟩)
  · rw [hshape]
    exact heven [points.length, width] (fun huneven => huneven width hwidth)
      (Or.inr ⟨width, hwidth, hne, rfl⟩)
  · rw [hshape]
    exact .here huneven rfl

theorem length_chunks (width n : Nat) (xs : List Float) : (chunks width n xs).length = n := by
  induction n generalizing xs with
  | zero => rfl
  | succ n ih => rw [chunks, List.length_cons, ih]

/-- What is known of points that were read: how many there are and have coordinates, and where the
first one is. -/
structure Points.From (points : WrittenPoints) (p : Points) : Prop where
  even : points.Even p.width
  length : p.line.length = points.length
  begins : 2 ≤ p.width → ∃ v rest, p.line = v :: rest ∧ points.BeginsAt v.flat

theorem exists_rows {points : WrittenPoints} {t : Table} (h : ReadFrom points t)
    (hne : points ≠ []) :
    ∃ width rows, t.rows? = some (width, rows) ∧ Points.From points ⟨width, rows.map vertex⟩ := by
  obtain ⟨width, heven, -, hshape⟩ := h.shape.resolve_left fun hnone => hne hnone.1
  refine ⟨width, chunks width points.length t.values, by rw [rows?, hshape], heven, ?_, ?_⟩
  · rw [List.length_map, length_chunks]
  · intro (hwidth : 2 ≤ width)
    -- two values stand at the head of the table: the first coordinates of the first point
    obtain ⟨point, more, rfl⟩ := List.exists_cons_of_ne_nil hne
    have hpoint : point.length = width := heven point (by simp)
    match point, hpoint with
    | [], hpoint => simp only [List.length_nil] at hpoint; omega
    | [x], hpoint => simp only [List.length_singleton] at hpoint; omega
    | x :: y :: rest, _ =>
      have hvalues := h.values
      rw [List.flatten_cons, List.cons_append, List.cons_append] at hvalues
      match hv : t.values, hvalues with
      | a :: b :: values, .cons hx (.cons hy _) =>
        obtain ⟨n, rfl⟩ := Nat.exists_eq_add_of_le hwidth
        refine ⟨_, _, rfl, x, y, rest, more, rfl, ?_, ?_⟩
        · rw [hx, Nat.add_comm]
          rfl
        · rw [hy, Nat.add_comm]
          rfl

theorem rows?_nil {t : Table} (h : ReadFrom [] t) : t.rows? = none := by
  rcases h.shape with ⟨-, hshape⟩ | ⟨_, -, hsome, -⟩
  · rw [rows?, hshape]
  · exact absurd rfl hsome

theorem points_made {points : WrittenPoints} {t : Table} (h : ReadFrom points t) :
    Made tells [⟨points = [], tells .outOfRange⟩] (fun p => points ≠ [] ∧ Points.From points p)
      t.points := by
  apply made_one
  by_cases hne : points = []
  · subst hne
    have hshape : t.shape = [0] := by
      rcases h.shape with ⟨-, hshape⟩ | ⟨_, -, hsome, -⟩
      · exact hshape
      · exact absurd rfl hsome
    rw [Table.points, rows?_nil h, hshape]
    exact ⟨rfl, rfl⟩
  · obtain ⟨width, rows, hrows, hfrom⟩ := exists_rows h hne
    rw [Table.points, hrows]
    exact ⟨hne, hne, hfrom⟩

theorem readBound_made {points : WrittenPoints} (h : points.Numeric) :
    Made Fault.isBlamed (readChecks Fault.isBlamed points ++ [⟨points.length < 2, true⟩])
      (fun p => 2 ≤ points.length ∧ Points.From points p) (readBound points.document) := by
  refine (read_made h).bind fun t ht => made_one ?_
  by_cases hne : points = []
  · subst hne
    rw [bound, rows?_nil ht]
    exact ⟨by simp, rfl⟩
  · obtain ⟨width, rows, hrows, hfrom⟩ := exists_rows ht hne
    have hlength : rows.length = points.length := by simpa using hfrom.length
    rw [bound, hrows]
    match rows, hlength, hfrom with
    | [], hlength, _ => exact ⟨by simp [← hlength], rfl⟩
    | [_], hlength, _ => exact ⟨by simp [← hlength], rfl⟩
    | a :: b :: rest, hlength, hfrom =>
      have hlong : 2 ≤ points.length := by simp [← hlength]
      exact ⟨Nat.not_lt.2 hlong, hlong, hfrom⟩

end Table

end LaneRoute
