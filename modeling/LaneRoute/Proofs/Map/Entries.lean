import LaneRoute.Map.Entry
import LaneRoute.Proofs.Map.Tables

/-!
# Entries with numbers

What comes of a segment, a parking space or a parking lot whose fields hold numbers. The fields of
each kind of entry are given as rules, and an entry is defective when it breaks one: it lacks a
field, or one of its lines has too few points or coordinates. What is looked at when an entry is
read, and in which order, is given as checks. Those of a segment are reported with its id, unless a
number is too large, a second coordinate is missing where a length is asked for, or the outline
begins at no place; those of a parking area are never reported. A parking space whose line has less
than two points stands, without an area.
-/

set_option autoImplicit false

namespace LaneRoute

open Check (Made Pass made_one made_pure)

/-! ## Rules -/

/-- What a field holds: a number, several, or a list of so many points at least. -/
inductive FieldKind where
  | number
  | numbers
  | points (least : Nat)
deriving DecidableEq

structure FieldRule where
  key : String
  isRequired : Bool
  kind : FieldKind
deriving DecidableEq

def segmentRules : List FieldRule :=
  [⟨"id", true, .number⟩, ⟨"left_bound", true, .points 2⟩, ⟨"right_bound", true, .points 2⟩,
   ⟨"centerline", false, .points 2⟩, ⟨"successors", false, .numbers⟩,
   ⟨"predecessors", false, .numbers⟩, ⟨"adj_left", false, .number⟩, ⟨"adj_right", false, .number⟩]

/-- A space may have a line of less than two points: no area is made of it. -/
def spaceRules : List FieldRule :=
  [⟨"id", true, .number⟩, ⟨"linestring", true, .points 0⟩, ⟨"width", true, .number⟩]

def lotRules : List FieldRule := [⟨"id", true, .number⟩, ⟨"polygon", true, .points 3⟩]

def requiredKeys (rules : List FieldRule) : List String :=
  (rules.filter (·.isRequired)).map (·.key)

def FieldKind.Admits : FieldKind → Document → Prop
  | number, d => d.IsNumber
  | numbers, d => ∃ ds, d = .list ds ∧ ∀ x ∈ ds, x.IsNumber
  | points _, d => ∃ points : WrittenPoints, d = points.document ∧ points.Numeric

abbrev WrittenFields := List (Document × Document)

namespace WrittenFields

open Document (lookup?)

/-- All fields that the rules tell of hold numbers; those that are not required may hold nothing. -/
def Numeric (rules : List FieldRule) (fields : WrittenFields) : Prop :=
  ∀ rule ∈ rules, ∀ d, lookup? rule.key fields = some d →
    rule.kind.Admits d ∨ rule.isRequired = false ∧ d = .null

def Lacks (rules : List FieldRule) (fields : WrittenFields) : Prop :=
  ∃ key ∈ requiredKeys rules, lookup? key fields = none

def Has (fields : WrittenFields) (key : String) (P : Document → Prop) : Prop :=
  ∃ d, lookup? key fields = some d ∧ P d

def HasLine (fields : WrittenFields) (key : String) (P : WrittenPoints → Prop) : Prop :=
  ∃ points : WrittenPoints, lookup? key fields = some points.document ∧ P points

/-- A required field is missing, or there are too few points or coordinates in a line. -/
def Defective (rules : List FieldRule) (fields : WrittenFields) : Prop :=
  fields.Lacks rules ∨
    ∃ rule ∈ rules, ∃ least, rule.kind = .points least ∧ fields.HasLine rule.key (·.Scant least)

variable {rules : List FieldRule} {fields : WrittenFields} {key : String}

theorem has_iff {d : Document} (hd : lookup? key fields = some d) {P : Document → Prop} :
    fields.Has key P ↔ P d := by
  simp [Has, hd]

theorem hasLine_iff {points : WrittenPoints} (hfield : lookup? key fields = some points.document)
    {P : WrittenPoints → Prop} : fields.HasLine key P ↔ P points := by
  constructor
  · rintro ⟨others, hothers, hP⟩
    rw [hfield, Option.some.injEq] at hothers
    exact WrittenPoints.document_inj hothers ▸ hP
  · exact fun hP => ⟨points, hfield, hP⟩

theorem not_hasLine_of_null (hnull : (lookup? key fields).getD .null = .null)
    (P : WrittenPoints → Prop) : ¬ fields.HasLine key P := by
  rintro ⟨points, hpoints, -⟩
  rw [hpoints] at hnull
  cases hnull

theorem Numeric.number (h : fields.Numeric rules) {key : String} {d : Document}
    (hrule : ⟨key, true, .number⟩ ∈ rules) (hd : lookup? key fields = some d) : d.IsNumber := by
  rcases h _ hrule d hd with hnumber | ⟨hoptional, -⟩
  · exact hnumber
  · cases hoptional

theorem Numeric.points (h : fields.Numeric rules) {key : String} {d : Document} {least : Nat}
    (hrule : ⟨key, true, .points least⟩ ∈ rules) (hd : lookup? key fields = some d) :
    ∃ points : WrittenPoints, d = points.document ∧ points.Numeric := by
  rcases h _ hrule d hd with hpoints | ⟨hoptional, -⟩
  · exact hpoints
  · cases hoptional

theorem Numeric.optional (h : fields.Numeric rules) {key : String} {kind : FieldKind}
    (hrule : ⟨key, false, kind⟩ ∈ rules) :
    (lookup? key fields).getD .null = .null ∨
      ∃ d, lookup? key fields = some d ∧ kind.Admits d := by
  cases hd : lookup? key fields with
  | none => exact Or.inl rfl
  | some d =>
    rcases h _ hrule d hd with hadmits | ⟨-, rfl⟩
    · exact Or.inr ⟨d, rfl, hadmits⟩
    · exact Or.inl rfl

end WrittenFields

open WrittenFields
open Document (lookup?)

/-! ## Checks -/

namespace WrittenFields

open WrittenPoints

def presence (isReported : Bool) (rules : List FieldRule) (fields : WrittenFields) : List Check :=
  (requiredKeys rules).map fun key => ⟨lookup? key fields = none, isReported⟩

variable (tells : Fault → Bool)

def idChecks (fields : WrittenFields) : List Check :=
  [⟨fields.Has "id" (·.toInt = .error .badValue), tells .badValue⟩,
   ⟨fields.Has "id" (·.toInt = .error .tooLarge), tells .tooLarge⟩]

def tableChecks (key : String) (fields : WrittenFields) : List Check :=
  [⟨fields.HasLine key Uneven, tells .badValue⟩, ⟨fields.HasLine key Overflows, tells .tooLarge⟩]

end WrittenFields

/-! ## Segments -/

namespace WrittenFields

open WrittenPoints

def boundChecks (key : String) (fields : WrittenFields) : List Check :=
  fields.tableChecks Fault.isBlamed key ++ [⟨fields.HasLine key (·.length < 2), true⟩]

def NarrowBounds (fields : WrittenFields) : Prop :=
  fields.HasLine "left_bound" Narrow ∨ fields.HasLine "right_bound" Narrow

def shapeChecks (fields : WrittenFields) : List Check :=
  [⟨fields.NarrowBounds, true⟩, ⟨fields.HasLine "left_bound" BeginsNowhere, false⟩,
   ⟨fields.HasLine "centerline" Narrow, false⟩]

/-- What is looked at when a segment is read. Without a centerline the bounds need a second
coordinate before it is looked for. -/
def segmentChecks (fields : WrittenFields) : List Check :=
  fields.presence true segmentRules ++ (fields.idChecks Fault.isBlamed ++
    (fields.boundChecks "left_bound" ++ (fields.boundChecks "right_bound" ++
      ([⟨(lookup? "centerline" fields).getD .null = .null ∧ fields.NarrowBounds, false⟩] ++
        (fields.boundChecks "centerline" ++ fields.shapeChecks)))))

variable {fields : WrittenFields}

theorem not_defective_of_pass (h : Pass fields.segmentChecks) :
    ¬ fields.Defective segmentRules := by
  simp only [segmentChecks, Check.pass_append] at h
  obtain ⟨hpresence, -, hleft, hright, -, hcenter, hshape⟩ := h
  have hlong : ∀ key, Pass (fields.boundChecks key) → ¬ fields.HasLine key (·.length < 2) :=
    fun key hkey => hkey ⟨fields.HasLine key (·.length < 2), true⟩ (by simp [boundChecks])
  have hwide : ¬ fields.NarrowBounds := hshape ⟨fields.NarrowBounds, true⟩ (by simp [shapeChecks])
  have hwideCenter : ¬ fields.HasLine "centerline" Narrow :=
    hshape ⟨fields.HasLine "centerline" Narrow, false⟩ (by simp [shapeChecks])
  rintro (⟨key, hkey, hlacks⟩ | ⟨rule, hrule, least, hkind, points, hfield, hscant⟩)
  · exact hpresence ⟨_, true⟩ (List.mem_map_of_mem hkey) hlacks
  · simp only [segmentRules, List.mem_cons, List.not_mem_nil, or_false] at hrule
    rcases hrule with rfl | rfl | rfl | rfl | rfl | rfl | rfl | rfl <;>
      simp only [reduceCtorEq, FieldKind.points.injEq] at hkind <;> subst hkind
    · exact hscant.elim (fun hfew => hlong _ hleft ⟨points, hfield, hfew⟩)
        fun hnarrow => hwide (Or.inl ⟨points, hfield, hnarrow⟩)
    · exact hscant.elim (fun hfew => hlong _ hright ⟨points, hfield, hfew⟩)
        fun hnarrow => hwide (Or.inr ⟨points, hfield, hnarrow⟩)
    · exact hscant.elim (fun hfew => hlong _ hcenter ⟨points, hfield, hfew⟩)
        fun hnarrow => hwideCenter ⟨points, hfield, hnarrow⟩

end WrittenFields

variable {tells : Fault → Bool}

theorem Document.toInt_made {d : Document} (h : d.IsNumber) :
    Made tells [⟨d.toInt = .error .badValue, tells .badValue⟩,
      ⟨d.toInt = .error .tooLarge, tells .tooLarge⟩] (fun _ => True) d.toInt := by
  cases hd : d.toInt with
  | ok i => exact ⟨by simp [Pass], trivial⟩
  | error fault =>
    have hfault : fault = .badValue ∨ fault = .tooLarge := by
      cases d with
      | int i => cases hd
      | real x =>
        simp only [toInt] at hd
        split_ifs at hd <;> simp_all
      | _ => exact h.elim
    rcases hfault with rfl | rfl
    · exact .here rfl rfl
    · exact .later (by simp) (.here rfl rfl)

theorem Ring.ofPoints_made (tells : Fault → Bool) (points : List (Point Float)) :
    Made tells [⟨points.length < 3, tells .badValue⟩,
      ⟨∃ p, points.head? = some p ∧ Point.agrees p p = false, tells .badShape⟩] (fun _ => True)
      (Ring.ofPoints points) := by
  match points with
  | [] | [_] | [_, _] => exact .here (by simp) rfl
  | p :: q :: s :: rest =>
    refine Made.later (by simp) (made_one ?_)
    rw [Ring.ofPoints]
    split
    next hplace => exact ⟨by simp [hplace], trivial⟩
    next hplace => exact ⟨⟨p, rfl, by simpa using hplace⟩, rfl⟩

theorem Table.Points.From.beginsNowhere_iff {points : WrittenPoints} {p : Table.Points}
    (h : Table.Points.From points p) (hwide : 2 ≤ p.width) :
    points.BeginsNowhere ↔ ∃ q, p.flat.head? = some q ∧ Point.agrees q q = false := by
  obtain ⟨v, rest, hline, hbegins⟩ := h.begins hwide
  have hhead : p.flat.head? = some v.flat := by simp [Table.Points.flat, hline]
  rw [hhead]
  constructor
  · rintro ⟨q, hq, hplace⟩
    exact ⟨q, congrArg some (hbegins.unique hq), hplace⟩
  · rintro ⟨q, hq, hplace⟩
    exact ⟨q, Option.some.inj hq ▸ hbegins, hplace⟩

namespace SegmentEntry

structure NamesNumbers (e : SegmentEntry) : Prop where
  lanes : ∀ d ∈ e.successors ++ e.predecessors, d.IsNumber
  sides : ∀ d ∈ [e.left, e.right], d = .null ∨ d.IsNumber

theorem outline_made (tells : Fault → Bool) {left right : WrittenPoints} {l r : Table.Points}
    (hl : Table.Points.From left l) (hr : Table.Points.From right r) (hleft : 2 ≤ left.length)
    (hright : 2 ≤ right.length) (hwidth : 2 ≤ l.width) :
    Made tells [⟨left.BeginsNowhere, tells .badShape⟩] (fun _ => True)
      (Ring.ofPoints (Segment.outlinePoints l.line r.line)) := by
  have hcount : (Segment.outlinePoints l.line r.line).length = left.length + right.length := by
    simp [Segment.outlinePoints, hl.length, hr.length]
  have hhead : (Segment.outlinePoints l.line r.line).head? = l.flat.head? := by
    obtain ⟨v, rest, hline, -⟩ := hl.begins hwidth
    simp [Segment.outlinePoints, Table.Points.flat, hline]
  have hmade := Ring.ofPoints_made tells (Segment.outlinePoints l.line r.line)
  rw [hhead] at hmade
  rw [hl.beginsNowhere_iff hwidth]
  exact hmade.tail (by simp only [hcount]; omega)

variable {fields : WrittenFields}

theorem exists_line (h : fields.Numeric segmentRules) {key : String}
    (hkey : key ∈ ["left_bound", "right_bound"]) {d : Document} (hd : lookup? key fields = some d) :
    ∃ points : WrittenPoints, d = points.document ∧ points.Numeric := by
  have hrule : ⟨key, true, .points 2⟩ ∈ segmentRules := by
    simp only [List.mem_cons, List.not_mem_nil, or_false] at hkey
    rcases hkey with rfl | rfl <;> decide
  exact h.points hrule hd

theorem bound_made {key : String} {points : WrittenPoints}
    (hfield : lookup? key fields = some points.document) (hnumeric : points.Numeric) :
    Made Fault.isBlamed (fields.boundChecks key)
      (fun p => 2 ≤ points.length ∧ Table.Points.From points p)
      (Table.readBound points.document) := by
  simp only [boundChecks, tableChecks, hasLine_iff hfield]
  exact Table.readBound_made hnumeric

theorem narrowBounds_iff {left right : WrittenPoints}
    (hleft : lookup? "left_bound" fields = some left.document)
    (hright : lookup? "right_bound" fields = some right.document) {l r : Table.Points}
    (hl : 2 ≤ left.length ∧ Table.Points.From left l)
    (hr : 2 ≤ right.length ∧ Table.Points.From right r) :
    fields.NarrowBounds ↔ (decide (l.width < 2) || decide (r.width < 2)) = true := by
  rw [NarrowBounds, hasLine_iff hleft, hasLine_iff hright,
    hl.2.even.narrow_iff (List.ne_nil_of_length_pos (Nat.zero_lt_of_lt hl.1)),
    hr.2.even.narrow_iff (List.ne_nil_of_length_pos (Nat.zero_lt_of_lt hr.1)),
    Bool.or_eq_true, decide_eq_true_eq, decide_eq_true_eq]

theorem centerline_made (h : fields.Numeric segmentRules) {l r : Table.Points}
    (hbounds : fields.NarrowBounds ↔ (decide (l.width < 2) || decide (r.width < 2)) = true) :
    Made Fault.isBlamed
      ([⟨(lookup? "centerline" fields).getD .null = .null ∧ fields.NarrowBounds, false⟩] ++
        fields.boundChecks "centerline")
      (fun c => fields.HasLine "centerline" WrittenPoints.Narrow ↔ c.width < 2)
      (centerline ((lookup? "centerline" fields).getD .null) l r) := by
  have hrule : ⟨"centerline", false, .points 2⟩ ∈ segmentRules := by decide
  rcases h.optional hrule with hnull | ⟨d, hd, points, rfl, hnumeric⟩
  · rw [hnull]
    simp only [centerline]
    split
    next hnarrow => exact .here ⟨trivial, hbounds.2 hnarrow⟩ rfl
    next hwide =>
      refine Made.later (mt And.right (mt hbounds.1 hwide)) ⟨?_, ?_⟩
      · simp [boundChecks, tableChecks, Pass, not_hasLine_of_null hnull]
      · simp [not_hasLine_of_null hnull]
  · have hset : points.document ≠ .null := by simp [WrittenPoints.document]
    rw [hd, Option.getD_some]
    refine Made.later (mt And.left hset) ((bound_made hd hnumeric).imp fun c hc => ?_)
    · rw [hasLine_iff hd]
      exact hc.2.even.narrow_iff (List.ne_nil_of_length_pos (Nat.zero_lt_of_lt hc.1))

theorem references_made (h : fields.Numeric segmentRules) (key : String)
    (hkey : key ∈ ["successors", "predecessors"]) :
    Made tells [] (fun ds => ∀ x ∈ ds, x.IsNumber)
      (references ((lookup? key fields).getD .null)) := by
  have hrule : ⟨key, false, .numbers⟩ ∈ segmentRules := by
    simp only [List.mem_cons, List.not_mem_nil, or_false] at hkey
    rcases hkey with rfl | rfl <;> decide
  rcases h.optional hrule with hnull | ⟨d, hd, ds, rfl, hnumbers⟩
  · rw [hnull]
    exact made_pure (by simp)
  · rw [hd]
    exact made_pure hnumbers

theorem side_cases (h : fields.Numeric segmentRules) {key : String}
    (hkey : key ∈ ["adj_left", "adj_right"]) :
    (lookup? key fields).getD .null = .null ∨ ((lookup? key fields).getD .null).IsNumber := by
  have hrule : ⟨key, false, .number⟩ ∈ segmentRules := by
    simp only [List.mem_cons, List.not_mem_nil, or_false] at hkey
    rcases hkey with rfl | rfl <;> decide
  rcases h.optional hrule with hnull | ⟨d, hd, hnumber⟩
  · exact Or.inl hnull
  · rw [hd]
    exact Or.inr hnumber

theorem ofFields_made (h : fields.Numeric segmentRules) {id : Document}
    {left right : WrittenPoints} (hid : lookup? "id" fields = some id)
    (hleft : lookup? "left_bound" fields = some left.document)
    (hright : lookup? "right_bound" fields = some right.document)
    (hnleft : left.Numeric) (hnright : right.Numeric) :
    Made Fault.isBlamed
      (fields.idChecks Fault.isBlamed ++ (fields.boundChecks "left_bound" ++
        (fields.boundChecks "right_bound" ++
          ([⟨(lookup? "centerline" fields).getD .null = .null ∧ fields.NarrowBounds, false⟩] ++
            (fields.boundChecks "centerline" ++ fields.shapeChecks)))))
      NamesNumbers (ofFields (.mapping fields) id left.document right.document) := by
  unfold ofFields
  dsimp only [Document.get?]
  have hnumber : id.IsNumber := h.number (by decide) hid
  have hint : Made Fault.isBlamed (fields.idChecks Fault.isBlamed) (fun _ => True) id.toInt := by
    simp only [idChecks, has_iff hid]
    exact Document.toInt_made hnumber
  refine hint.bind fun i _ => ?_
  refine (bound_made hleft hnleft).bind fun l hl => ?_
  refine (bound_made hright hnright).bind fun r hr => ?_
  have hbounds := narrowBounds_iff hleft hright hl hr
  rw [← List.append_assoc]
  refine (centerline_made h hbounds).bind fun c hc => ?_
  split
  next hnarrow => exact .here (hbounds.2 hnarrow) rfl
  next hwide =>
    have hwidth : 2 ≤ l.width ∧ 2 ≤ r.width := by
      simpa only [Bool.or_eq_true, decide_eq_true_eq, not_or, Nat.not_lt] using hwide
    refine Made.later (fun hnarrow => hwide (hbounds.1 hnarrow)) ?_
    have houtline := outline_made Fault.isBlamed hl.2 hr.2 hl.1 hr.1 hwidth.1
    rw [← hasLine_iff hleft (P := WrittenPoints.BeginsNowhere)] at houtline
    refine houtline.bind fun _ _ => ?_
    refine (references_made h "successors" (by simp)).bind fun ahead hahead => ?_
    refine (references_made h "predecessors" (by simp)).bind fun behind hbehind => ?_
    split
    next hnarrow => exact .here (hc.2 hnarrow) rfl
    next hwide =>
      refine Made.later (fun hnarrow => hwide (hc.1 hnarrow)) (made_pure ⟨?lanes, ?sides⟩)
      case lanes =>
        intro d hd
        exact (List.mem_append.1 hd).elim (hahead d) (hbehind d)
      case sides =>
        intro d hd
        simp only [List.mem_cons, List.not_mem_nil, or_false] at hd
        rcases hd with rfl | rfl
        · exact side_cases h (by simp)
        · exact side_cases h (by simp)

theorem blame_made {β : Type} {checks : List Check} {P : β → Prop} {result : Except Fault β}
    (h : Made Fault.isBlamed checks P result) (params : Document) :
    Made Fault.isReport checks P (blame params result) := by
  cases result with
  | ok b => exact h
  | error fault => cases fault <;> exact h

theorem ofDocument_made (h : fields.Numeric segmentRules) :
    Made Fault.isReport fields.segmentChecks NamesNumbers (ofDocument (.mapping fields)) := by
  have hrequired : ∀ key, Made Fault.isReport [⟨lookup? key fields = none, true⟩]
      (fun d => lookup? key fields = some d) (required (.mapping fields) key) := by
    intro key
    apply made_one
    unfold required
    split
    next d hd => exact ⟨by rw [show lookup? key fields = some d from hd]; simp, hd⟩
    next hnone => exact ⟨hnone, rfl⟩
  unfold ofDocument
  refine (hrequired "id").bind fun id hid => ?_
  refine (hrequired "left_bound").bind fun left hleft => ?_
  refine (hrequired "right_bound").bind fun right hright => ?_
  obtain ⟨left, rfl, hnleft⟩ := exists_line h (by simp) hleft
  obtain ⟨right, rfl, hnright⟩ := exists_line h (by simp) hright
  exact blame_made (ofFields_made h hid hleft hright hnleft hnright) _

end SegmentEntry

/-! ## Parking areas -/

namespace WrittenFields

open WrittenPoints

/-- What is looked at when a parking space is read; nothing of it is reported. -/
def spaceChecks (fields : WrittenFields) : List Check :=
  fields.presence false spaceRules ++ (fields.idChecks Fault.isReport ++
    (fields.tableChecks Fault.isReport "linestring" ++
      [⟨fields.Has "width" Document.Overflows, false⟩]))

/-- What is looked at when a parking lot is read; nothing of it is reported. -/
def lotChecks (fields : WrittenFields) : List Check :=
  fields.presence false lotRules ++ (fields.idChecks Fault.isReport ++
    (fields.tableChecks Fault.isReport "polygon" ++
      [⟨fields.HasLine "polygon" (· = []), false⟩, ⟨fields.HasLine "polygon" Narrow, false⟩,
       ⟨fields.HasLine "polygon" (·.length < 3), false⟩,
       ⟨fields.HasLine "polygon" BeginsNowhere, false⟩]))

variable {fields : WrittenFields}

theorem defective_iff_of_pass (h : Pass fields.spaceChecks) :
    fields.Defective spaceRules ↔ fields.HasLine "linestring" Narrow := by
  simp only [spaceChecks, Check.pass_append] at h
  constructor
  · rintro (⟨key, hkey, hlacks⟩ | ⟨rule, hrule, least, hkind, points, hfield, hscant⟩)
    · exact absurd hlacks (h.1 ⟨_, false⟩ (List.mem_map_of_mem hkey))
    · simp only [spaceRules, List.mem_cons, List.not_mem_nil, or_false] at hrule
      rcases hrule with rfl | rfl | rfl <;>
        simp only [reduceCtorEq, FieldKind.points.injEq] at hkind
      subst hkind
      exact ⟨points, hfield, hscant.resolve_left (Nat.not_lt_zero _)⟩
  · rintro ⟨points, hfield, hnarrow⟩
    exact Or.inr ⟨⟨"linestring", true, .points 0⟩, by decide, 0, rfl, points, hfield,
      Or.inr hnarrow⟩

theorem lot_not_defective_of_pass (h : Pass fields.lotChecks) : ¬ fields.Defective lotRules := by
  simp only [lotChecks, Check.pass_append] at h
  obtain ⟨hpresence, -, -, hpolygon⟩ := h
  rintro (⟨key, hkey, hlacks⟩ | ⟨rule, hrule, least, hkind, points, hfield, hscant⟩)
  · exact hpresence ⟨_, false⟩ (List.mem_map_of_mem hkey) hlacks
  · simp only [lotRules, List.mem_cons, List.not_mem_nil, or_false] at hrule
    rcases hrule with rfl | rfl <;>
      simp only [reduceCtorEq, FieldKind.points.injEq] at hkind
    subst hkind
    rcases hscant with hfew | hnarrow
    · exact hpolygon ⟨fields.HasLine "polygon" (·.length < 3), false⟩ (by simp)
        ⟨points, hfield, hfew⟩
    · exact hpolygon ⟨fields.HasLine "polygon" Narrow, false⟩ (by simp)
        ⟨points, hfield, hnarrow⟩

end WrittenFields

theorem parkingFields_made (rules : List FieldRule) (fields : WrittenFields) :
    Made Fault.isReport (fields.presence false rules)
      (List.Forall₂ (fun key d => lookup? key fields = some d) (requiredKeys rules))
      (parkingFields (.mapping fields) (requiredKeys rules)) := by
  rw [presence, List.map_eq_flatMap]
  apply Check.made_mapM
  intro key _
  apply made_one
  cases hd : lookup? key fields with
  | some d => exact ⟨by simp, rfl⟩
  | none => exact ⟨rfl, rfl⟩

namespace ParkingSpace

theorem areaOf_short {points : WrittenPoints} {t : Table} (h : Table.ReadFrom points t)
    (hshort : points.length < 2) (width : Float) : areaOf t width = .ok none := by
  have hcount : ∃ count others, t.shape = count :: others ∧ count < 2 := by
    rcases h.shape with ⟨-, hshape⟩ | ⟨extent, -, -, hshape⟩
    · exact ⟨0, [], hshape, by decide⟩
    · exact ⟨points.length, [extent], hshape, hshort⟩
  obtain ⟨count, others, hshape, hcount⟩ := hcount
  rw [areaOf, hshape]
  simp [hcount]

variable {fields : WrittenFields}

def ShortHasNoArea (fields : WrittenFields) (space : ParkingSpace Float) : Prop :=
  ∀ points : WrittenPoints, lookup? "linestring" fields = some points.document →
    points.length < 2 → space.area = .ok none

theorem ofDocument_made (h : fields.Numeric spaceRules) :
    Made Fault.isReport fields.spaceChecks (ShortHasNoArea fields)
      (ofDocument (.mapping fields)) := by
  unfold ofDocument
  refine (parkingFields_made spaceRules fields).bind fun ds hds => ?_
  match ds, hds with
  | [id, line, width], .cons hid (.cons hline (.cons hwidth .nil)) =>
    have hrule : ⟨"linestring", true, .points 0⟩ ∈ spaceRules := by decide
    obtain ⟨points, rfl, hnumeric⟩ := h.points hrule hline
    simp only [idChecks, tableChecks, has_iff hid, has_iff hwidth, hasLine_iff hline]
    refine (Document.toInt_made (h.number (by decide) hid)).bind fun i _ => ?_
    refine (Table.read_made hnumeric).bind fun t ht => ?_
    refine (Document.toReal_made (h.number (by decide) hwidth)).then fun w _ => made_pure ?_
    intro others hothers hshort
    obtain rfl := WrittenPoints.document_inj (Option.some.inj (hline.symm.trans hothers))
    exact areaOf_short ht hshort w

theorem holds_of_none {space : ParkingSpace Float} (h : space.area = .ok none) (p : Point Float) :
    space.holds p = .ok false := by
  rw [holds, h]
  rfl

end ParkingSpace

namespace ParkingLot

variable {fields : WrittenFields}

theorem boundary_made {points : WrittenPoints} {p : Table.Points} (h : Table.Points.From points p)
    (hne : points ≠ []) :
    Made tells [⟨points.Narrow, tells .badValue⟩, ⟨points.length < 3, tells .badValue⟩,
      ⟨points.BeginsNowhere, tells .badShape⟩] (fun _ => True) p.boundary := by
  unfold Table.Points.boundary
  split
  next hnarrow => exact .here ((h.even.narrow_iff hne).2 hnarrow) rfl
  next hwide =>
    refine Made.later (fun hnarrow => hwide ((h.even.narrow_iff hne).1 hnarrow)) ?_
    have hcount : p.flat.length = points.length := by simp [Table.Points.flat, h.length]
    rw [h.beginsNowhere_iff (Nat.not_lt.1 hwide), ← hcount]
    exact Ring.ofPoints_made tells p.flat

theorem ofDocument_made (h : fields.Numeric lotRules) :
    Made Fault.isReport fields.lotChecks (fun _ => True) (ofDocument (.mapping fields)) := by
  unfold ofDocument
  refine (parkingFields_made lotRules fields).bind fun ds hds => ?_
  match ds, hds with
  | [id, polygon], .cons hid (.cons hpolygon .nil) =>
    have hrule : ⟨"polygon", true, .points 3⟩ ∈ lotRules := by decide
    obtain ⟨points, rfl, hnumeric⟩ := h.points hrule hpolygon
    simp only [idChecks, tableChecks, has_iff hid, hasLine_iff hpolygon]
    refine (Document.toInt_made (h.number (by decide) hid)).bind fun i _ => ?_
    refine (Table.read_made hnumeric).bind fun t ht => ?_
    refine (Table.points_made ht).bind fun p hp => ?_
    exact (boundary_made hp.2 hp.1).then fun ring _ => made_pure trivial

end ParkingLot

end LaneRoute
