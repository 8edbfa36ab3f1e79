import LaneRoute.Map.Basic
import LaneRoute.Proofs.Map.Entries
import LaneRoute.Proofs.Network.Validation

/-!
# Defects of a map

What comes of a map whose entries hold numbers. The segments are read first, then the parking
spaces, then the parking lots, and then the network is made. The first thing that is wrong decides:
it is reported when it is one of those that are, and otherwise another fault comes of the map. A
parking space whose line has less than two points is kept, and no point lies on it.
-/

set_option autoImplicit false

namespace LaneRoute

open Fallible (Yields)
open Check (FirstFails Made Pass made_one)
open Document (lookup?)

/-! ## References that are numbers -/

namespace RoadNetwork

variable {α : Type} [Scalar α]

/-- A fault that names a reference names one that a segment makes. -/
def Names (segments : List (Segment α)) : NetworkFault α → Prop
  | .unknownReference id reference => ∃ s ∈ segments, s.id = id ∧ reference ∈ s.references
  | _ => True

theorem checkSegment_yields {segments : List (Segment α)} {s : Segment α} (hs : s ∈ segments)
    (ids : List Int) : Yields (fun _ => True) (Names segments) (checkSegment ids s) := by
  unfold checkSegment
  split
  · trivial
  · split
    next reference hfound => exact ⟨s, hs, rfl, List.mem_of_find?_eq_some hfound⟩
    next => trivial

theorem check_yields (segments : List (Segment α)) :
    Yields (fun _ => True)
      (fun fault => Names segments fault ∧
        ((∃ id, fault = .duplicateId id) ∨ (segments.map (·.id)).Nodup))
      (check segments) := by
  unfold check
  dsimp only
  split
  next id _ => exact ⟨trivial, Or.inl ⟨id, rfl⟩⟩
  next hnone =>
    have hids := (firstRepeated?_eq_none hnone).1
    have hall : ∀ rest ⊆ segments, Yields (fun _ => True) (Names segments)
        (rest.forM (checkSegment (segments.map (·.id)))) := by
      intro rest hrest
      induction rest with
      | nil => trivial
      | cons s rest ih =>
        obtain ⟨hs, hrest⟩ := List.cons_subset.1 hrest
        exact (checkSegment_yields hs _).bind fun _ _ => ih hrest
    exact (hall segments (List.Subset.refl _)).imp_fault
      fun fault hfault => ⟨hfault, Or.inr hids⟩

end RoadNetwork

namespace SegmentEntry

theorem references_toSegment (e : SegmentEntry) (stranger : Int) :
    (e.toSegment stranger).references = e.written.map (idOr stranger) := by
  have hside : ∀ (keep : Document → Bool) (d : Document),
      (([d].filter keep).map (idOr stranger)).head?.toList =
        ([d].filter keep).map (idOr stranger) := by
    intro keep d
    cases hd : keep d <;> simp [hd]
  have hsides : [e.left, e.right] = [e.left] ++ [e.right] := rfl
  rw [written, hsides, List.filter_append, List.filter_append, List.filter_append,
    List.map_append, List.map_append, List.map_append]
  exact congrArg _ (congrArg₂ _ (hside _ e.left) (hside _ e.right))

theorem isNumber_of_written {e : SegmentEntry} (h : e.NamesNumbers) {d : Document}
    (hd : d ∈ e.written) : d.IsNumber := by
  obtain ⟨hmem, hset⟩ := List.mem_filter.1 hd
  rw [List.mem_append] at hmem
  rcases hmem with hlane | hside
  · exact h.lanes d hlane
  · rcases h.sides d hside with rfl | hnumber
    · cases hset
    · exact hnumber

theorem hasGap_eq_false {e : SegmentEntry} (h : e.NamesNumbers) : e.hasGap = false := by
  rw [hasGap, List.any_eq_false]
  intro d hd
  have hnumber := h.lanes d hd
  cases d with
  | null => exact hnumber.elim
  | _ => simp

end SegmentEntry

namespace Map

variable {entries : List SegmentEntry} {spaces : List (ParkingSpace Float)}
  {lots : List (ParkingLot Float)}

/-- Among entries with distinct ids, a reference is reported as its entry writes it. -/
theorem fault_of_names {stranger : Int} (hids : (entries.map (·.id)).Nodup)
    (hnumbers : ∀ e ∈ entries, e.NamesNumbers) {id reference : Int}
    (h : RoadNetwork.Names (entries.map (·.toSegment stranger)) (.unknownReference id reference)) :
    ∃ cause, fault entries stranger (.unknownReference id reference) = .map cause := by
  obtain ⟨s, hs, hid, hreference⟩ := h
  obtain ⟨e, he, rfl⟩ := List.mem_map.1 hs
  rw [SegmentEntry.references_toSegment] at hreference
  obtain ⟨d, hd, hdid⟩ := List.mem_map.1 hreference
  have hfirst : entries.find? (·.id = id) = some e := by
    obtain ⟨f, hf⟩ := Option.isSome_iff_exists.1 (List.find?_isSome (p := fun f => f.id = id).2
      ⟨e, he, decide_eq_true hid⟩)
    have hfid : f.id = id := by simpa using List.find?_some hf
    rw [hf, List.inj_on_of_nodup_map hids (List.mem_of_find?_eq_some hf) he (hfid.trans hid.symm)]
  obtain ⟨word, hword⟩ : ∃ word, e.writtenFor? stranger reference = some word :=
    Option.isSome_iff_exists.1 (List.find?_isSome.2 ⟨d, hd, decide_eq_true hdid⟩)
  have hnumber := SegmentEntry.isNumber_of_written (hnumbers e he) (List.mem_of_find?_eq_some hword)
  simp only [fault, hfirst, Option.bind_some, hword]
  cases word with
  | int i => exact ⟨_, rfl⟩
  | real x => exact ⟨_, rfl⟩
  | _ => exact hnumber.elim

theorem build_yields (h : ∀ e ∈ entries, e.NamesNumbers) (cost : Float) :
    let segments := entries.map (·.toSegment (strangerId entries))
    Yields (fun net => ¬ RoadNetwork.Defective segments ∧ net.parkingSpaces = spaces)
      (fun fault => RoadNetwork.Defective segments ∧ fault.isReport = true)
      (build entries spaces lots cost) := by
  intro segments
  unfold build
  dsimp only
  have hgap : entries.any (·.hasGap) = false :=
    List.any_eq_false.2 fun e he => by simp [SegmentEntry.hasGap_eq_false (h e he)]
  have hcheck := RoadNetwork.check_yields segments
  unfold RoadNetwork.build
  cases hresult : RoadNetwork.check segments with
  | ok _ =>
    simp only [bind, Except.bind, pure, Except.pure, hgap]
    exact ⟨RoadNetwork.check_eq_ok_iff.1 hresult, rfl⟩
  | error f =>
    rw [hresult] at hcheck
    obtain ⟨hnames, hids⟩ := hcheck
    have hdefective : RoadNetwork.Defective segments := by
      by_contra hsound
      rw [RoadNetwork.check_eq_ok_iff.2 hsound] at hresult
      cases hresult
    simp only [bind, Except.bind]
    refine ⟨hdefective, ?_⟩
    cases f with
    | duplicateId id => rfl
    | badLength id length => rfl
    | unknownReference id reference =>
      have hdistinct := hids.resolve_left fun ⟨_, hother⟩ => by cases hother
      rw [List.map_map] at hdistinct
      obtain ⟨cause, hcause⟩ := fault_of_names hdistinct h hnames
      rw [hcause]
      rfl

end Map

/-! ## Maps with numbers -/

/-- The entries of a section of a map. A section that is not there has none. -/
def HasEntries (d : Document) (key : String) (entries : List WrittenFields) : Prop :=
  d.get? key = some (.list (entries.map .mapping)) ∨ d.get? key = none ∧ entries = []

/-- A map with lists of entries whose fields hold numbers. -/
structure NumericMap (d : Document) (segments spaces lots : List WrittenFields) : Prop where
  hasSegments : d.get? "segments" = some (.list (segments.map .mapping))
  hasSpaces : HasEntries d "parking_spaces" spaces
  hasLots : HasEntries d "parking_lots" lots
  numericSegments : ∀ fields ∈ segments, fields.Numeric segmentRules
  numericSpaces : ∀ fields ∈ spaces, fields.Numeric spaceRules
  numericLots : ∀ fields ∈ lots, fields.Numeric lotRules

namespace Map

variable {d : Document} {segments spaces lots : List WrittenFields}

theorem optionalItems_eq {key : String} {entries : List WrittenFields}
    (h : HasEntries d key entries) : optionalItems (d.get? key) = .ok (entries.map .mapping) := by
  rcases h with hlist | ⟨hnone, rfl⟩
  · rw [hlist]
    cases entries with
    | nil => rfl
    | cons fields entries => rfl
  · rw [hnone]
    rfl

theorem ofDocument_eq (h : NumericMap d segments spaces lots) (cost : Float) :
    ofDocument d cost = (do
      let entries ← segments.mapM fun fields => SegmentEntry.ofDocument (.mapping fields)
      let areas ← spaces.mapM fun fields => ParkingSpace.ofDocument (.mapping fields)
      let outlines ← lots.mapM fun fields => ParkingLot.ofDocument (.mapping fields)
      build entries areas outlines cost) := by
  obtain ⟨entries, rfl⟩ : ∃ entries, d = .mapping entries := by
    cases d with
    | mapping entries => exact ⟨entries, rfl⟩
    | _ => exact absurd h.hasSegments (by simp [Document.get?])
  have hset : (Document.mapping entries).isSet = true := by
    cases entries with
    | nil => exact absurd h.hasSegments (by simp [Document.get?, lookup?])
    | cons entry entries => rfl
  have hmentions : (Document.mapping entries).mentions "segments" = .ok true := by
    have hsome : lookup? "segments" entries = _ := h.hasSegments
    simp [Document.mentions, hsome]
  unfold ofDocument
  simp only [hset, hmentions, h.hasSegments, optionalItems_eq h.hasSpaces,
    optionalItems_eq h.hasLots, items, List.mapM_map, bind, Except.bind, Bool.not_true,
    Bool.false_eq_true, if_false]
  rfl

/-- The segments can be read, and no network accepts them. -/
def Refused (segments : List WrittenFields) : Prop :=
  ∃ entries, segments.mapM (fun fields => SegmentEntry.ofDocument (.mapping fields)) = .ok entries ∧
    RoadNetwork.Defective (entries.map (·.toSegment (strangerId entries)))

/-- What is looked at when a network is made of a map, in this order. -/
def checks (segments spaces lots : List WrittenFields) : List Check :=
  segments.flatMap WrittenFields.segmentChecks ++ (spaces.flatMap WrittenFields.spaceChecks ++
    (lots.flatMap WrittenFields.lotChecks ++ [⟨Refused segments, true⟩]))

/-- Nothing but the checks decides what comes of a map. -/
theorem ofDocument_made (h : NumericMap d segments spaces lots) (cost : Float) :
    Made Fault.isReport (checks segments spaces lots)
      (fun net => List.Forall₂ ParkingSpace.ShortHasNoArea spaces net.parkingSpaces)
      (ofDocument d cost) := by
  rw [ofDocument_eq h]
  have hsegments := Check.made_mapM fun fields hfields =>
    SegmentEntry.ofDocument_made (h.numericSegments fields hfields)
  refine hsegments.and_eq.bind fun entries he => ?_
  refine (Check.made_mapM fun fields hfields =>
    ParkingSpace.ofDocument_made (h.numericSpaces fields hfields)).bind fun areas hareas => ?_
  refine (Check.made_mapM fun fields hfields =>
    ParkingLot.ofDocument_made (h.numericLots fields hfields)).bind fun outlines _ => ?_
  have hrefused : Refused segments ↔
      RoadNetwork.Defective (entries.map (·.toSegment (strangerId entries))) := by
    constructor
    · rintro ⟨others, hothers, hdefective⟩
      obtain rfl := Except.ok.inj (he.2.symm.trans hothers)
      exact hdefective
    · exact fun hdefective => ⟨entries, he.2, hdefective⟩
  rw [hrefused]
  exact made_one ((build_yields (Fallible.forall_right he.1) cost).imp
    (fun net hnet => ⟨hnet.1, hnet.2 ▸ hareas⟩) fun _ hfault => hfault)

/-- Defective entries are reported, and nothing else comes of a map than a network or a report. -/
def ReportsDefects (d : Document) (cost : Float) (segments spaces lots : List WrittenFields) :
    Prop :=
  ((∃ fields ∈ segments, fields.Defective segmentRules) ∨
      (∃ fields ∈ spaces, fields.Defective spaceRules) ∨
      (∃ fields ∈ lots, fields.Defective lotRules) →
    ∃ cause, ofDocument d cost = .error (.map cause)) ∧
  ∀ fault, ofDocument d cost = .error fault → ∃ cause, fault = .map cause

theorem isReport_iff {fault : Fault} : fault.isReport = true ↔ ∃ cause, fault = .map cause := by
  cases fault <;> simp [Fault.isReport]

theorem defective_iff_of_pass (hpass : Pass (checks segments spaces lots)) :
    ((∃ fields ∈ segments, fields.Defective segmentRules) ∨
      (∃ fields ∈ spaces, fields.Defective spaceRules) ∨
      (∃ fields ∈ lots, fields.Defective lotRules)) ↔
    ∃ fields ∈ spaces, fields.HasLine "linestring" WrittenPoints.Narrow := by
  simp only [checks, Check.pass_append, Check.pass_flatMap] at hpass
  obtain ⟨hsegments, hspaces, hlots, -⟩ := hpass
  constructor
  · rintro (⟨fields, hfields, hdefective⟩ | ⟨fields, hfields, hdefective⟩ |
      ⟨fields, hfields, hdefective⟩)
    · exact absurd hdefective (WrittenFields.not_defective_of_pass (hsegments fields hfields))
    · exact ⟨fields, hfields,
        (WrittenFields.defective_iff_of_pass (hspaces fields hfields)).1 hdefective⟩
    · exact absurd hdefective (WrittenFields.lot_not_defective_of_pass (hlots fields hfields))
  · rintro ⟨fields, hfields, hnarrow⟩
    exact Or.inr (Or.inl ⟨fields, hfields,
      (WrittenFields.defective_iff_of_pass (hspaces fields hfields)).2 hnarrow⟩)

/-- Defects are reported, and nothing else goes wrong, exactly when the first check that fails is
one of those that are reported, or none fails and every point in the line of a parking space has
two coordinates. When the first check that fails is another one, a fault comes of the map that is no
report. A parking space whose line has less than two points is kept without an area, and no point
lies on it. -/
theorem ofDocument_reports_iff (h : NumericMap d segments spaces lots) (cost : Float) :
    (ReportsDefects d cost segments spaces lots ↔
      FirstFails true (checks segments spaces lots) ∨ Pass (checks segments spaces lots) ∧
        ∀ fields ∈ spaces, ¬ fields.HasLine "linestring" WrittenPoints.Narrow) ∧
    ((∃ fault, ofDocument d cost = .error fault ∧ ∀ cause, fault ≠ .map cause) ↔
      FirstFails false (checks segments spaces lots)) ∧
    ∀ net, ofDocument d cost = .ok net →
      List.Forall₂ (fun fields space => ∀ points : WrittenPoints,
        lookup? "linestring" fields = some points.document → points.length < 2 →
          space.area = .ok none ∧ ∀ p, space.holds p = .ok false) spaces net.parkingSpaces := by
  have hmade := ofDocument_made h cost
  refine ⟨⟨?holds, ?reports⟩, ?other, ?short⟩
  case holds =>
    rintro ⟨hdefects, hnothingElse⟩
    cases hresult : ofDocument d cost with
    | ok net =>
      have hpass := hmade.exists_ok_iff.1 ⟨net, hresult⟩
      refine Or.inr ⟨hpass, fun fields hfields hnarrow => ?_⟩
      have hdefective := (defective_iff_of_pass hpass).2 ⟨fields, hfields, hnarrow⟩
      obtain ⟨cause, hcause⟩ := hdefects hdefective
      rw [hresult] at hcause
      cases hcause
    | error fault =>
      exact Or.inl ((hmade.exists_error_iff true).1
        ⟨fault, hresult, isReport_iff.2 (hnothingElse fault hresult)⟩)
  case reports =>
    rintro (hfirst | ⟨hpass, hwide⟩)
    · obtain ⟨fault, hfault, hreport⟩ := (hmade.exists_error_iff true).2 hfirst
      obtain ⟨cause, rfl⟩ := isReport_iff.1 hreport
      refine ⟨fun _ => ⟨cause, hfault⟩, fun other hother => ⟨cause, ?_⟩⟩
      exact Except.error.inj (hother.symm.trans hfault)
    · obtain ⟨net, hnet⟩ := hmade.exists_ok_iff.2 hpass
      refine ⟨fun hdefect => ?_, fun fault hfault => ?_⟩
      · obtain ⟨fields, hfields, hnarrow⟩ := (defective_iff_of_pass hpass).1 hdefect
        exact absurd hnarrow (hwide fields hfields)
      · rw [hnet] at hfault
        cases hfault
  case other =>
    rw [← hmade.exists_error_iff false]
    refine exists_congr fun fault => and_congr_right fun _ => ?_
    rw [← Bool.not_eq_true, isReport_iff, not_exists]
  case short =>
    intro net hnet
    rw [hnet] at hmade
    refine hmade.2.imp fun fields space hspace points hfield hshort => ?_
    have harea := hspace points hfield hshort
    exact ⟨harea, ParkingSpace.holds_of_none harea⟩

/-! ## A space without a line -/

def bareSpace : WrittenFields := [(.text "id", .int 1)]

def kerb : WrittenPoints := [[.real 0, .real 0], [.real 10, .real 0]]

def halfSegment : WrittenFields := [(.text "id", .int 1), (.text "right_bound", kerb.document)]

def ruler : WrittenPoints := [[.real 0], [.real 1]]

def flatSegment : WrittenFields :=
  [(.text "id", .int 1), (.text "left_bound", ruler.document),
   (.text "right_bound", ruler.document)]

def sketch (segments spaces : List WrittenFields) : Document :=
  .mapping [(.text "segments", .list (segments.map .mapping)),
    (.text "parking_spaces", .list (spaces.map .mapping))]

theorem numericMap_sketch {segments spaces : List WrittenFields}
    (hsegments : ∀ fields ∈ segments, fields.Numeric segmentRules)
    (hspaces : ∀ fields ∈ spaces, fields.Numeric spaceRules) :
    NumericMap (sketch segments spaces) segments spaces [] where
  hasSegments := rfl
  hasSpaces := Or.inl rfl
  hasLots := Or.inr ⟨rfl, rfl⟩
  numericSegments := hsegments
  numericSpaces := hspaces
  numericLots := by simp

theorem numeric_bareSpace : bareSpace.Numeric spaceRules := by
  intro rule hrule d hd
  simp only [spaceRules, List.mem_cons, List.not_mem_nil, or_false] at hrule
  rcases hrule with rfl | rfl | rfl
  · obtain rfl := Option.some.inj hd
    exact Or.inl trivial
  all_goals cases hd

theorem numeric_halfSegment : halfSegment.Numeric segmentRules := by
  intro rule hrule d hd
  simp only [segmentRules, List.mem_cons, List.not_mem_nil, or_false] at hrule
  rcases hrule with rfl | rfl | rfl | rfl | rfl | rfl | rfl | rfl
  · obtain rfl := Option.some.inj hd
    exact Or.inl trivial
  · cases hd
  · obtain rfl := Option.some.inj hd
    exact Or.inl ⟨kerb, rfl, by simp [kerb, WrittenPoints.Numeric, Document.IsNumber]⟩
  all_goals cases hd

theorem numeric_flatSegment : flatSegment.Numeric segmentRules := by
  have hruler : ruler.Numeric := by simp [ruler, WrittenPoints.Numeric, Document.IsNumber]
  intro rule hrule d hd
  simp only [segmentRules, List.mem_cons, List.not_mem_nil, or_false] at hrule
  rcases hrule with rfl | rfl | rfl | rfl | rfl | rfl | rfl | rfl
  · obtain rfl := Option.some.inj hd
    exact Or.inl trivial
  · obtain rfl := Option.some.inj hd
    exact Or.inl ⟨ruler, rfl, hruler⟩
  · obtain rfl := Option.some.inj hd
    exact Or.inl ⟨ruler, rfl, hruler⟩
  all_goals cases hd

/-- Beside the bare space, a segment without a left bound is reported. -/
theorem halfSegment_reported : ReportsDefects (sketch [halfSegment] [bareSpace]) 2 [halfSegment]
    [bareSpace] [] ∧ halfSegment.Defective segmentRules ∧ bareSpace.Defective spaceRules := by
  have hnumeric : NumericMap (sketch [halfSegment] [bareSpace]) [halfSegment] [bareSpace] [] :=
    numericMap_sketch (by simpa using numeric_halfSegment) (by simpa using numeric_bareSpace)
  obtain ⟨hreports, -⟩ := ofDocument_reports_iff hnumeric 2
  have hid : lookup? "id" halfSegment = some (.int 1) := rfl
  have hpresent : ¬ lookup? "id" halfSegment = none := by simp [hid]
  exact ⟨hreports.2 (Or.inl (.later hpresent (.here rfl rfl))),
    Or.inl ⟨"left_bound", by decide, rfl⟩, Or.inl ⟨"linestring", by decide, rfl⟩⟩

/-- The space alone makes a fault that is no report, and so does a segment whose points have one
coordinate. -/
theorem bareSpace_unreported :
    (NumericMap (sketch [] [bareSpace]) [] [bareSpace] [] ∧ bareSpace.Defective spaceRules ∧
      ofDocument (sketch [] [bareSpace]) 2 = .error .unknown ∧
      ¬ ReportsDefects (sketch [] [bareSpace]) 2 [] [bareSpace] []) ∧
    NumericMap (sketch [flatSegment] []) [flatSegment] [] [] ∧
      flatSegment.Defective segmentRules ∧
      ofDocument (sketch [flatSegment] []) 2 = .error .outOfRange ∧
      ¬ ReportsDefects (sketch [flatSegment] []) 2 [flatSegment] [] [] := by
  have hspace : ofDocument (sketch [] [bareSpace]) 2 = .error .unknown := rfl
  have hsegment : ofDocument (sketch [flatSegment] []) 2 = .error .outOfRange := rfl
  refine ⟨⟨numericMap_sketch (by simp) (by simpa using numeric_bareSpace),
    Or.inl ⟨"linestring", by decide, rfl⟩, hspace, fun ⟨_, hnothingElse⟩ => ?_⟩,
    numericMap_sketch (by simpa using numeric_flatSegment) (by simp), Or.inr ?_, hsegment,
    fun ⟨_, hnothingElse⟩ => ?_⟩
  · obtain ⟨cause, hcause⟩ := hnothingElse _ hspace
    cases hcause
  · exact ⟨⟨"left_bound", true, .points 2⟩, by decide, 2, rfl, ruler, rfl,
      Or.inr ⟨[.real 0], by simp [ruler], by simp⟩⟩
  · obtain ⟨cause, hcause⟩ := hnothingElse _ hsegment
    cases hcause

end Map

end LaneRoute
