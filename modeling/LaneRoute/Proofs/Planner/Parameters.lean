import LaneRoute.Proofs.Fallible
import LaneRoute.Planner.Settings
import Mathlib.Data.List.TakeWhile

/-!
# Reading planner parameters

What a mapping of parameters is read into. As documented, a parameter takes a mark or a number,
whichever it is, and what is no parameter is noticed and left out. This is what happens unless a
key is a name that the settings have for something else, or an integer is beyond all doubles.
-/

set_option autoImplicit false

namespace LaneRoute

namespace Document

def isMark : Document → Bool
  | .bool _ => true
  | _ => false

def isNumeral : Document → Bool
  | .int _ => true
  | .real _ => true
  | _ => false

/-- A number given as a double, or as an integer that is not beyond all of them. -/
inductive ReadsAs : Document → Float → Prop
  | real (x : Float) : ReadsAs (.real x) x
  | int (i : Int) (h : (Binary.nearest i).isInf = false) : ReadsAs (.int i) (Binary.nearest i)

theorem isNumeral_of_readsAs {value : Document} {x : Float} (h : value.ReadsAs x) :
    value.isNumeral = true := by
  cases h <;> rfl

end Document

namespace Settings

def isParameter (key : String) : Bool := isFlagKey key || isNumberKey key

theorem isFlagKey_iff {key : String} : isFlagKey key = true ↔ key = "enable_correct_goal_pose" ∨
    key = "consider_no_drivable_lanes" ∨ key = "check_footprint_inside_lanes" := by
  simp only [isFlagKey, flags, List.any_cons, List.any_nil, Bool.or_false, Bool.or_eq_true,
    decide_eq_true_iff, @eq_comm _ _ key]

theorem isNumberKey_iff {key : String} : isNumberKey key = true ↔
    key = "goal_angle_threshold_deg" ∨ key = "footprint_search_margin" ∨ key = "lane_change_cost" ∨
      key = "fine_centerline_resolution" ∨ key = "elevation_centerline_resolution" := by
  simp only [isNumberKey, numbers, List.any_cons, List.any_nil, Bool.or_false, Bool.or_eq_true,
    decide_eq_true_iff, @eq_comm _ _ key]

theorem isNumberKey_of_isFlagKey {key : String} (h : isFlagKey key = true) :
    isNumberKey key = false := by
  rcases isFlagKey_iff.1 h with rfl | rfl | rfl <;> decide

theorem not_isFlagKey_of_isNumberKey {key : String} (h : isNumberKey key = true) :
    ¬ isFlagKey key = true := fun hflag => by simp [isNumberKey_of_isFlagKey hflag] at h

theorem isParameter_of_isFlagKey {key : String} (h : isFlagKey key = true) :
    isParameter key = true := by
  rw [isParameter, h, Bool.true_or]

theorem isParameter_of_isNumberKey {key : String} (h : isNumberKey key = true) :
    isParameter key = true := by
  rw [isParameter, h, Bool.or_true]

/-! ## One parameter -/

section Write

variable {s : Settings Float} {key : String}

theorem mem_flags_withFlag (h : isFlagKey key = true) {b : Bool} {e : String × Bool}
    (he : e ∈ (s.withFlag key b).flags) : e = (key, b) ∨ e ∈ s.flags ∧ e.1 ≠ key := by
  rcases isFlagKey_iff.1 h with rfl | rfl | rfl <;>
    simp only [flags, withFlag, List.mem_cons, List.not_mem_nil, or_false] at he ⊢ <;>
    rcases he with rfl | rfl | rfl <;> simp

theorem mem_numbers_withNumber (h : isNumberKey key = true) {x : Float} {e : String × Float}
    (he : e ∈ (s.withNumber key x).numbers) : e = (key, x) ∨ e ∈ s.numbers ∧ e.1 ≠ key := by
  rcases isNumberKey_iff.1 h with rfl | rfl | rfl | rfl | rfl <;>
    simp only [numbers, withNumber, List.mem_cons, List.not_mem_nil, or_false] at he ⊢ <;>
    rcases he with rfl | rfl | rfl | rfl | rfl <;> simp

theorem numbers_withFlag (b : Bool) : (s.withFlag key b).numbers = s.numbers := by
  unfold withFlag
  split <;> rfl

theorem flags_withNumber (x : Float) : (s.withNumber key x).flags = s.flags := by
  unfold withNumber
  split <;> rfl

theorem withFlag_of_not (h : isFlagKey key = false) (b : Bool) : s.withFlag key b = s := by
  unfold withFlag
  split
  case h_4 => rfl
  all_goals exact absurd h (by decide)

theorem withNumber_of_not (h : isNumberKey key = false) (x : Float) : s.withNumber key x = s := by
  unfold withNumber
  split
  case h_6 => rfl
  all_goals exact absurd h (by decide)

end Write

def assign (s : Settings Float) (e : String × Document) : Settings Float :=
  match e.2 with
  | .bool b => s.withFlag e.1 b
  | .int i => s.withNumber e.1 (Binary.nearest i)
  | .real x => s.withNumber e.1 x
  | _ => s

theorem assign_of_not {e : String × Document} (h : isParameter e.1 = false) (s : Settings Float) :
    s.assign e = s := by
  obtain ⟨hflag, hnumber⟩ := Bool.or_eq_false_iff.1 h
  unfold assign
  split
  · exact withFlag_of_not hflag _
  · exact withNumber_of_not hnumber _
  · exact withNumber_of_not hnumber _
  · rfl

/-! ## The documented reading -/

def suits (e : String × Document) : Bool :=
  if isFlagKey e.1 then e.2.isMark else if isNumberKey e.1 then e.2.isNumeral else true

theorem suits_of_isFlagKey {e : String × Document} (h : isFlagKey e.1 = true) :
    suits e = e.2.isMark := if_pos h

theorem suits_of_isNumberKey {e : String × Document} (h : isNumberKey e.1 = true) :
    suits e = e.2.isNumeral :=
  (if_neg (not_isFlagKey_of_isNumberKey h)).trans (if_pos h)

theorem suits_of_not {e : String × Document} (h : isParameter e.1 = false) : suits e = true := by
  obtain ⟨hflag, hnumber⟩ := Bool.or_eq_false_iff.1 h
  rw [suits, if_neg (by simp [hflag]), if_neg (by simp [hnumber])]

def Overflows (e : String × Document) : Prop :=
  isNumberKey e.1 = true ∧ ∃ i, e.2 = .int i ∧ (Binary.nearest i).isInf = true

theorem suits_of_overflows {e : String × Document} (h : Overflows e) : suits e = true := by
  obtain ⟨hnumber, i, hi, -⟩ := h
  rw [suits_of_isNumberKey hnumber, hi]
  rfl

theorem not_overflows_of_readsAs {e : String × Document} {x : Float} (h : e.2.ReadsAs x) :
    ¬ Overflows e := by
  rintro ⟨-, i, hi, hbig⟩
  rw [hi] at h
  cases h with
  | int _ hsmall => exact absurd hbig (by simp [hsmall])

theorem readsAs_of_suits {e : String × Document} (h : suits e = true) (hover : ¬ Overflows e)
    (hnumber : isNumberKey e.1 = true) : ∃ x, e.2.ReadsAs x := by
  obtain ⟨key, value⟩ := e
  have hnumeral := (suits_of_isNumberKey hnumber).symm.trans h
  cases value with
  | int i =>
    exact ⟨_, .int i (Bool.eq_false_iff.2 fun hbig => hover ⟨hnumber, i, rfl, hbig⟩)⟩
  | real x => exact ⟨x, .real x⟩
  | _ => cases hnumeral

/-- Every parameter has a value that was given under its name, or else the one it had. -/
structure Updates (start : Settings Float) (given : List (String × Document)) (s : Settings Float) :
    Prop where
  flags : ∀ e ∈ s.flags, (e.1, .bool e.2) ∈ given ∨ e.1 ∉ given.map Prod.fst ∧ e ∈ start.flags
  numbers : ∀ e ∈ s.numbers, (∃ value, (e.1, value) ∈ given ∧ value.ReadsAs e.2) ∨
    e.1 ∉ given.map Prod.fst ∧ e ∈ start.numbers

section Assign

variable {s : Settings Float} {e : String × Document}

theorem isFlagKey_of_mem_flags {f : String × Bool} (h : f ∈ s.flags) : isFlagKey f.1 = true := by
  rw [isFlagKey_iff]
  simp only [flags, List.mem_cons, List.not_mem_nil, or_false] at h
  rcases h with rfl | rfl | rfl <;> simp

theorem isNumberKey_of_mem_numbers {x : String × Float} (h : x ∈ s.numbers) :
    isNumberKey x.1 = true := by
  rw [isNumberKey_iff]
  simp only [numbers, List.mem_cons, List.not_mem_nil, or_false] at h
  rcases h with rfl | rfl | rfl | rfl | rfl <;> simp

theorem flags_assign (h : isFlagKey e.1 = false) : (s.assign e).flags = s.flags := by
  unfold assign
  split
  · rw [withFlag_of_not h]
  · exact flags_withNumber _
  · exact flags_withNumber _
  · rfl

theorem numbers_assign (h : isNumberKey e.1 = false) : (s.assign e).numbers = s.numbers := by
  unfold assign
  split
  · exact numbers_withFlag _
  · rw [withNumber_of_not h]
  · rw [withNumber_of_not h]
  · rfl

theorem assign_of_readsAs {x : Float} (h : e.2.ReadsAs x) : s.assign e = s.withNumber e.1 x := by
  obtain ⟨key, value⟩ := e
  cases h <;> rfl

theorem mem_flags_assign (h : suits e = true) {f : String × Bool} (hf : f ∈ (s.assign e).flags) :
    e = (f.1, .bool f.2) ∨ f ∈ s.flags ∧ f.1 ≠ e.1 := by
  obtain ⟨key, value⟩ := e
  cases hflag : isFlagKey key with
  | true =>
    have hmark := (suits_of_isFlagKey hflag).symm.trans h
    cases value with
    | bool b => exact (mem_flags_withFlag hflag hf).imp_left fun hfb => by rw [hfb]
    | _ => cases hmark
  | false =>
    rw [flags_assign hflag] at hf
    refine Or.inr ⟨hf, fun hkey => ?_⟩
    have hkeyed := isFlagKey_of_mem_flags hf
    rw [hkey, hflag] at hkeyed
    cases hkeyed

theorem mem_numbers_assign (h : suits e = true) (hover : ¬ Overflows e) {x : String × Float}
    (hx : x ∈ (s.assign e).numbers) :
    e.1 = x.1 ∧ e.2.ReadsAs x.2 ∨ x ∈ s.numbers ∧ x.1 ≠ e.1 := by
  cases hnumber : isNumberKey e.1 with
  | true =>
    obtain ⟨y, hy⟩ := readsAs_of_suits h hover hnumber
    rw [assign_of_readsAs hy] at hx
    refine (mem_numbers_withNumber hnumber hx).imp_left fun hxy => ?_
    rw [hxy]
    exact ⟨rfl, hy⟩
  | false =>
    rw [numbers_assign hnumber] at hx
    refine Or.inr ⟨hx, fun hkey => ?_⟩
    have hkeyed := isNumberKey_of_mem_numbers hx
    rw [hkey, hnumber] at hkeyed
    cases hkeyed

end Assign

theorem updates_foldl {given : List (String × Document)}
    (h : ∀ e ∈ given, suits e = true ∧ ¬ Overflows e) (start : Settings Float) :
    Updates start given (given.foldl assign start) := by
  induction given generalizing start with
  | nil =>
    exact ⟨fun f hf => Or.inr ⟨List.not_mem_nil, hf⟩, fun x hx => Or.inr ⟨List.not_mem_nil, hx⟩⟩
  | cons e given ih =>
    obtain ⟨hsuits, hover⟩ := h e List.mem_cons_self
    have hrest := ih (fun e' he' => h e' (List.mem_cons_of_mem e he')) (start.assign e)
    constructor
    · intro f hf
      rcases hrest.flags f hf with hgiven | ⟨hnew, hold⟩
      · exact Or.inl (List.mem_cons_of_mem e hgiven)
      rcases mem_flags_assign hsuits hold with hhere | ⟨hbefore, hkey⟩
      · exact Or.inl (hhere ▸ List.mem_cons_self)
      · exact Or.inr ⟨fun hkeys => (List.mem_cons.1 hkeys).elim hkey hnew, hbefore⟩
    · intro x hx
      rcases hrest.numbers x hx with ⟨value, hgiven, hreads⟩ | ⟨hnew, hold⟩
      · exact Or.inl ⟨value, List.mem_cons_of_mem e hgiven, hreads⟩
      rcases mem_numbers_assign hsuits hover hold with ⟨hhere, hreads⟩ | ⟨hbefore, hkey⟩
      · exact Or.inl ⟨e.2, hhere ▸ List.mem_cons_self, hreads⟩
      · exact Or.inr ⟨fun hkeys => (List.mem_cons.1 hkeys).elim hkey hnew, hbefore⟩

end Settings

namespace StoredSettings

open Settings

/-- A name that the settings have for something else than a parameter. -/
def isTaken (key : String) : Bool := (takenNames ++ closedNames.map Prod.fst).contains key

/-- An entry that the documentation does not speak of: it has a name that is taken, or its integer
is beyond all doubles. -/
def Strays (e : String × Document) : Prop := isTaken e.1 = true ∨ Overflows e

variable {α : Type}

def readFrom (stored : StoredSettings) (given : List (String × Document)) :
    Report (Notice α) StoredSettings :=
  (given.map fun e => (.text e.1, e.2)).foldlM putEntry stored

def read (given : List (String × Document)) : Report (Notice α) StoredSettings :=
  ofEntries (given.map fun e => (.text e.1, e.2))

def noticed (given : List (String × Document)) : List (Notice α) :=
  (given.filter fun e => !isParameter e.1).map fun e => .unknownSetting e.1

/-- What is documented: the first value of the wrong kind is refused, what comes before it and is
no parameter is noticed, once each, and if nothing is refused all parameters have the values that
were given, and there is nothing else. -/
structure AsDocumented (given : List (String × Document)) (r : Report (Notice α) StoredSettings) :
    Prop where
  refused : (∃ fault, r.result = .error fault) ↔ ∃ e ∈ given, suits e = false
  refusal : ∀ fault, r.result = .error fault → ∃ e ∈ given, suits e = false ∧
    (fault = .setting (.plannerFlag e.1 e.2) ∨ fault = .setting (.plannerNumber e.1 e.2))
  stored : ∀ stored, r.result = .ok stored →
    Updates Settings.standard given stored.settings ∧ stored.others = []
  notices : r.notices = noticed (given.takeWhile suits)

/-! ## One entry -/

section Entry

variable {key : String} {value : Document} {stored : StoredSettings}

theorem number_cases (key : String) (value : Document) :
    (∃ x, value.ReadsAs x ∧ number key value = .ok x) ∨
    (value.isNumeral = false ∧ number key value = .error (.setting (.plannerNumber key value))) ∨
    ∃ i, value = .int i ∧ (Binary.nearest i).isInf = true ∧
      number key value = .error .tooLarge := by
  cases value with
  | int i =>
    cases h : (Binary.nearest i).isInf with
    | false => exact Or.inl ⟨_, .int i h, by simp [number, Document.realOfInt, h]⟩
    | true => exact Or.inr (Or.inr ⟨i, rfl, h, by simp [number, Document.realOfInt, h]⟩)
  | real x => exact Or.inl ⟨x, .real x, rfl⟩
  | _ => exact Or.inr (Or.inl ⟨rfl, rfl⟩)

theorem flag_cases (key : String) (value : Document) :
    (∃ b, value = .bool b ∧ flag key value = .ok b) ∨
    (value.isMark = false ∧ flag key value = .error (.setting (.plannerFlag key value))) := by
  cases value with
  | bool b => exact Or.inl ⟨b, rfl, rfl⟩
  | _ => exact Or.inr ⟨rfl, rfl⟩

theorem put_of_flag (h : isFlagKey key = true) : stored.put key value =
    (⟨[], (flag key value).map fun b =>
      { stored with settings := stored.settings.withFlag key b }⟩ : Report (Notice α) _) := by
  rw [put, if_pos h]
  rcases flag_cases key value with ⟨b, -, hb⟩ | ⟨-, hfault⟩
  · rw [hb]
    rfl
  · rw [hfault]
    rfl

theorem put_of_number (h : isNumberKey key = true) : stored.put key value =
    (⟨[], (number key value).map fun x =>
      { stored with settings := stored.settings.withNumber key x }⟩ : Report (Notice α) _) := by
  rw [put, if_neg (not_isFlagKey_of_isNumberKey h), if_pos h]
  cases number key value <;> rfl

theorem put_of_taken (h : isParameter key = false) (htaken : key ∈ takenNames) :
    stored.put key value = (⟨[], (number key value).map fun x =>
      { stored with others := putOther key x stored.others }⟩ : Report (Notice α) _) := by
  obtain ⟨hflag, hnumber⟩ := Bool.or_eq_false_iff.1 h
  have hcontains : takenNames.contains key = true := List.contains_iff_mem.2 htaken
  rw [put, if_neg (by simp [hflag]), if_neg (by simp [hnumber]), if_pos hcontains]
  cases number key value <;> rfl

theorem put_of_closed (h : isParameter key = false) (htaken : key ∉ takenNames) {fault : Fault}
    (hclosed : closedNames.lookup key = some fault) :
    stored.put key value = (⟨[], (number key value).bind fun _ => .error fault⟩ :
      Report (Notice α) _) := by
  obtain ⟨hflag, hnumber⟩ := Bool.or_eq_false_iff.1 h
  have hcontains : ¬ takenNames.contains key = true := mt List.contains_iff_mem.1 htaken
  rw [put, if_neg (by simp [hflag]), if_neg (by simp [hnumber]), if_neg hcontains, hclosed]
  cases number key value <;> rfl

theorem exists_lookup_closedNames (h : isTaken key = true) (hopen : key ∉ takenNames) :
    ∃ fault, closedNames.lookup key = some fault := by
  have hclosed := (List.mem_append.1 (List.contains_iff_mem.1 h)).resolve_left hopen
  obtain ⟨entry, hentry, rfl⟩ := List.mem_map.1 hclosed
  rw [← Option.ne_none_iff_exists']
  intro hnone
  exact absurd (List.lookup_eq_none_iff.1 hnone entry hentry) (by simp)

theorem put_of_free (h : isParameter key = false) (hfree : isTaken key = false) :
    stored.put key value = (⟨[.unknownSetting key], .ok stored⟩ : Report (Notice α) _) := by
  obtain ⟨hflag, hnumber⟩ := Bool.or_eq_false_iff.1 h
  have hnot := mt List.contains_iff_mem.2 (Bool.eq_false_iff.1 hfree)
  rw [List.mem_append, not_or] at hnot
  have hcontains : ¬ takenNames.contains key = true := mt List.contains_iff_mem.1 hnot.1
  have hlookup : closedNames.lookup key = none := by
    rw [List.lookup_eq_none_iff]
    intro entry hentry
    rw [bne_iff_ne]
    rintro rfl
    exact hnot.2 (List.mem_map_of_mem hentry)
  rw [put, if_neg (by simp [hflag]), if_neg (by simp [hnumber]), if_neg hcontains, hlookup]
  rfl

theorem not_isParameter_of_isTaken (h : isTaken key = true) : isParameter key = false := by
  have hall : ∀ name ∈ takenNames ++ closedNames.map Prod.fst, isParameter name = false := by
    decide
  exact hall key (List.contains_iff_mem.1 h)

theorem isTaken_of_isParameter (h : isParameter key = true) : isTaken key = false := by
  rw [Bool.eq_false_iff]
  intro htaken
  rw [not_isParameter_of_isTaken htaken] at h
  cases h

theorem noticed_of_isParameter (h : isParameter key = true) (value : Document) :
    noticed [(key, value)] = ([] : List (Notice α)) := by
  simp [noticed, h]

theorem noticed_of_not (h : isParameter key = false) (value : Document) :
    noticed [(key, value)] = ([.unknownSetting key] : List (Notice α)) := by
  simp [noticed, h]

end Entry

/-- What one entry can do: it is read as documented, it is refused as documented, its integer is
too large, or it has a name that is taken. -/
inductive PutCase (stored : StoredSettings) (e : String × Document) :
    Report (Notice α) StoredSettings → Prop where
  | plain (hsuits : suits e = true) (hstray : ¬ Strays e) :
      PutCase stored e ⟨noticed [e], .ok { stored with settings := stored.settings.assign e }⟩
  | wrong (hsuits : suits e = false) {fault : Fault}
      (hfault : fault = .setting (.plannerFlag e.1 e.2) ∨
        fault = .setting (.plannerNumber e.1 e.2)) :
      PutCase stored e ⟨[], .error fault⟩
  | overflow (hover : Overflows e) : PutCase stored e ⟨[], .error .tooLarge⟩
  | hidden (htaken : e.1 ∈ takenNames) (x : Float) :
      PutCase stored e ⟨[], .ok { stored with others := putOther e.1 x stored.others }⟩
  | closed (htaken : isTaken e.1 = true) (fault : Fault) : PutCase stored e ⟨[], .error fault⟩

theorem isTaken_of_mem {key : String} (h : key ∈ takenNames) : isTaken key = true :=
  List.contains_iff_mem.2 (List.mem_append_left _ h)

theorem not_strays_of_isFlagKey {e : String × Document} (h : isFlagKey e.1 = true) :
    ¬ Strays e := by
  rintro (htaken | ⟨hnumber, -⟩)
  · rw [isTaken_of_isParameter (isParameter_of_isFlagKey h)] at htaken
    cases htaken
  · rw [isNumberKey_of_isFlagKey h] at hnumber
    cases hnumber

theorem putCase (stored : StoredSettings) (e : String × Document) :
    PutCase (α := α) stored e (stored.put e.1 e.2) := by
  obtain ⟨key, value⟩ := e
  by_cases hflag : isFlagKey key = true
  case pos =>
    rw [put_of_flag hflag]
    rcases flag_cases key value with ⟨b, rfl, hb⟩ | ⟨hmark, hfault⟩
    · rw [hb, ← noticed_of_isParameter (isParameter_of_isFlagKey hflag) (.bool b)]
      exact .plain (suits_of_isFlagKey hflag) (not_strays_of_isFlagKey hflag)
    · rw [hfault]
      exact .wrong ((suits_of_isFlagKey hflag).trans hmark) (Or.inl rfl)
  by_cases hnumber : isNumberKey key = true
  case pos =>
    rw [put_of_number hnumber]
    have hsuits : suits (key, value) = value.isNumeral := suits_of_isNumberKey hnumber
    rcases number_cases key value with ⟨x, hx, hput⟩ | ⟨hnumeral, hfault⟩ | ⟨i, rfl, hbig, hfault⟩
    · have hstray : ¬ Strays (key, value) :=
        not_or.2 ⟨by simp [isTaken_of_isParameter (isParameter_of_isNumberKey hnumber)],
          not_overflows_of_readsAs hx⟩
      have hassign : stored.settings.withNumber key x = stored.settings.assign (key, value) :=
        (assign_of_readsAs (e := (key, value)) hx).symm
      rw [hput, ← noticed_of_isParameter (isParameter_of_isNumberKey hnumber) value, Except.map,
        hassign]
      exact .plain (hsuits.trans (Document.isNumeral_of_readsAs hx)) hstray
    · rw [hfault]
      exact .wrong (hsuits.trans hnumeral) (Or.inr rfl)
    · rw [hfault]
      exact .overflow ⟨hnumber, i, rfl, hbig⟩
  have hnot : isParameter key = false := by
    rw [isParameter, Bool.eq_false_iff.2 hflag, Bool.eq_false_iff.2 hnumber]
    rfl
  cases htaken : isTaken key with
  | false =>
    rw [put_of_free hnot htaken, ← noticed_of_not hnot value]
    have hstray : ¬ Strays (key, value) :=
      not_or.2 ⟨by simp [htaken], fun hover => hnumber hover.1⟩
    have hcase : PutCase (α := α) stored (key, value) _ := .plain (suits_of_not hnot) hstray
    rwa [assign_of_not hnot] at hcase
  | true =>
    by_cases hopen : key ∈ takenNames
    · rw [put_of_taken hnot hopen]
      cases number key value with
      | ok x => exact .hidden hopen x
      | error fault => exact .closed htaken fault
    · obtain ⟨fault, hlookup⟩ := exists_lookup_closedNames htaken hopen
      rw [put_of_closed hnot hopen hlookup]
      cases number key value with
      | ok x => exact .closed htaken fault
      | error early => exact .closed htaken early

theorem mem_putOther {key : String} {x : Float} {others : List (String × Float)}
    {o : String × Float} (h : o ∈ putOther key x others) : o ∈ others ∨ o.1 = key := by
  fun_induction putOther key x others with
  | case1 => simp_all
  | case2 y rest =>
    rcases List.mem_cons.1 h with rfl | h
    · exact Or.inr rfl
    · exact Or.inl (List.mem_cons_of_mem _ h)
  | case3 k y rest hk ih =>
    rcases List.mem_cons.1 h with rfl | h
    · exact Or.inl List.mem_cons_self
    · exact (ih h).imp_left (List.mem_cons_of_mem _)

section PutCase

variable {e : String × Document} {stored next : StoredSettings}
  {r : Report (Notice α) StoredSettings}

theorem suits_of_isTaken (h : isTaken e.1 = true) : suits e = true ∧ ¬ Overflows e := by
  have hnot := not_isParameter_of_isTaken h
  refine ⟨suits_of_not hnot, fun hover => ?_⟩
  rw [isParameter_of_isNumberKey hover.1] at hnot
  cases hnot

/-- What has been read is right even after an entry that strays, but then it is not all there is. -/
theorem PutCase.eq_ok (hcase : PutCase stored e r) (h : r.result = .ok next) :
    (suits e = true ∧ ¬ Overflows e) ∧ next.settings = stored.settings.assign e ∧
      ∀ o ∈ next.others, o ∈ stored.others ∨ o.1 ∈ takenNames := by
  cases hcase with
  | plain hsuits hstray =>
    obtain rfl := Except.ok.inj h
    exact ⟨⟨hsuits, fun hover => hstray (Or.inr hover)⟩, rfl, fun o ho => Or.inl ho⟩
  | hidden htaken x =>
    obtain rfl := Except.ok.inj h
    refine ⟨suits_of_isTaken (isTaken_of_mem htaken), ?_, fun o ho => ?_⟩
    · exact (assign_of_not (not_isParameter_of_isTaken (isTaken_of_mem htaken)) _).symm
    · exact (mem_putOther ho).imp_right fun hkey => by rwa [hkey]
  | wrong _ _ => cases h
  | overflow _ => cases h
  | closed _ _ => cases h

theorem PutCase.eq_of_plain (hcase : PutCase stored e r) (hsuits : suits e = true)
    (hstray : ¬ Strays e) :
    r = ⟨noticed [e], .ok { stored with settings := stored.settings.assign e }⟩ := by
  cases hcase with
  | plain _ _ => rfl
  | wrong hwrong _ => simp [hsuits] at hwrong
  | overflow hover => exact absurd (Or.inr hover) hstray
  | hidden htaken _ => exact absurd (Or.inl (isTaken_of_mem htaken)) hstray
  | closed htaken _ => exact absurd (Or.inl htaken) hstray

theorem PutCase.eq_of_wrong (hcase : PutCase stored e r) (h : suits e = false) :
    ∃ fault, (fault = .setting (.plannerFlag e.1 e.2) ∨
      fault = .setting (.plannerNumber e.1 e.2)) ∧ r = ⟨[], .error fault⟩ := by
  cases hcase with
  | plain hsuits _ => simp [hsuits] at h
  | wrong _ hfault => exact ⟨_, hfault, rfl⟩
  | overflow hover => simp [suits_of_overflows hover] at h
  | hidden htaken _ => simp [suits_of_isTaken (isTaken_of_mem htaken)] at h
  | closed htaken _ => simp [suits_of_isTaken htaken] at h

theorem PutCase.eq_of_overflows (hcase : PutCase stored e r) (h : Overflows e) :
    r = ⟨[], .error .tooLarge⟩ := by
  cases hcase with
  | plain _ hstray => exact absurd (Or.inr h) hstray
  | wrong hwrong _ => simp [suits_of_overflows h] at hwrong
  | overflow _ => rfl
  | hidden htaken _ => exact absurd h (suits_of_isTaken (isTaken_of_mem htaken)).2
  | closed htaken _ => exact absurd h (suits_of_isTaken htaken).2

theorem PutCase.notices_free (hcase : PutCase stored e r) {n : Notice α} (hn : n ∈ r.notices) :
    ∃ key, n = .unknownSetting key ∧ isTaken key = false := by
  cases hcase with
  | plain hsuits hstray =>
    obtain ⟨e', he', rfl⟩ := List.mem_map.1 hn
    obtain rfl := List.mem_singleton.1 (List.mem_filter.1 he').1
    exact ⟨e'.1, rfl, Bool.eq_false_iff.2 fun htaken => hstray (Or.inl htaken)⟩
  | _ => cases hn

end PutCase

/-! ## Entry by entry -/

section Entries

variable {e : String × Document} {given before rest : List (String × Document)}
  {stored last : StoredSettings}

theorem readFrom_cons : readFrom stored (e :: given) =
    (stored.put e.1 e.2 >>= fun next => readFrom next given : Report (Notice α) _) := rfl

theorem readFrom_append_plain (h : ∀ e ∈ before, suits e = true ∧ ¬ Strays e)
    (stored : StoredSettings) (rest : List (String × Document)) :
    readFrom stored (before ++ rest) =
      (⟨noticed before, .ok { stored with settings := before.foldl assign stored.settings }⟩ >>=
        fun next => readFrom next rest : Report (Notice α) _) := by
  induction before generalizing stored with
  | nil => rfl
  | cons e before ih =>
    obtain ⟨hplain, hbefore⟩ := List.forall_mem_cons.1 h
    have hput := (putCase (α := α) stored e).eq_of_plain hplain.1 hplain.2
    have hnoticed : (noticed (e :: before) : List (Notice α)) = noticed [e] ++ noticed before := by
      rw [noticed, noticed, noticed, ← List.map_append, ← List.filter_append]
      rfl
    rw [List.cons_append, readFrom_cons, hput, Report.bind_ok, ih hbefore, Report.bind_ok,
      Report.bind_ok, hnoticed, List.append_assoc, List.foldl_cons]

theorem readFrom_eq_ok (h : (readFrom stored given : Report (Notice α) _).result = .ok last) :
    (∀ e ∈ given, suits e = true ∧ ¬ Overflows e) ∧
      last.settings = given.foldl assign stored.settings ∧
      ∀ o ∈ last.others, o ∈ stored.others ∨ o.1 ∈ takenNames := by
  induction given generalizing stored with
  | nil =>
    obtain rfl := Except.ok.inj h
    exact ⟨fun e he => absurd he List.not_mem_nil, rfl, fun o ho => Or.inl ho⟩
  | cons e given ih =>
    rw [readFrom_cons, Report.result_bind] at h
    obtain ⟨next, hnext, hrest⟩ := Fallible.bind_eq_ok.1 h
    obtain ⟨hfits, hassign, hothers⟩ := (putCase stored e).eq_ok hnext
    obtain ⟨hall, hfold, hmore⟩ := ih hrest
    refine ⟨List.forall_mem_cons.2 ⟨hfits, hall⟩, ?_, fun o ho => ?_⟩
    · rw [hfold, hassign, List.foldl_cons]
    · exact (hmore o ho).elim (hothers o) Or.inr

theorem notices_readFrom_free {n : Notice α} (hn : n ∈ (readFrom stored given).notices) :
    ∃ key, n = .unknownSetting key ∧ isTaken key = false := by
  induction given generalizing stored with
  | nil => cases hn
  | cons e given ih =>
    rw [readFrom_cons] at hn
    have hput := fun n => (putCase (α := α) stored e).notices_free (n := n)
    cases hresult : (stored.put e.1 e.2 : Report (Notice α) _) with
    | mk notices result =>
      rw [hresult] at hn hput
      cases result with
      | error fault => exact hput n hn
      | ok next =>
        rw [Report.bind_ok] at hn
        exact (List.mem_append.1 hn).elim (hput n) ih

theorem readFrom_of_overflows (hfree : ∀ e ∈ given.takeWhile suits, isTaken e.1 = false)
    (hover : ∃ e ∈ given.takeWhile suits, Overflows e) :
    (readFrom stored given : Report (Notice α) _).result = .error .tooLarge := by
  induction given generalizing stored with
  | nil => simp at hover
  | cons e given ih =>
    cases hsuits : suits e with
    | false => simp [hsuits] at hover
    | true =>
      rw [List.takeWhile_cons_of_pos hsuits] at hfree hover
      obtain ⟨hfirst, hrest⟩ := List.forall_mem_cons.1 hfree
      rw [readFrom_cons]
      by_cases he : Overflows e
      · rw [(putCase stored e).eq_of_overflows he, Report.bind_error]
      · have hstray : ¬ Strays e := not_or.2 ⟨by simp [hfirst], he⟩
        rw [(putCase stored e).eq_of_plain hsuits hstray, Report.bind_ok]
        refine ih hrest ?_
        obtain ⟨e', he', hover'⟩ := hover
        rcases List.mem_cons.1 he' with rfl | he'
        · exact absurd hover' he
        · exact ⟨e', he', hover'⟩

end Entries

section Reading

variable {given before rest : List (String × Document)}

theorem updates_of_read {stored : StoredSettings}
    (h : (read given : Report (Notice α) _).result = .ok stored) :
    Updates Settings.standard given stored.settings ∧ ∀ o ∈ stored.others, o.1 ∈ takenNames := by
  obtain ⟨hfits, hfold, hothers⟩ := readFrom_eq_ok h
  refine ⟨hfold ▸ updates_foldl hfits _, fun o ho => ?_⟩
  exact (hothers o ho).resolve_left List.not_mem_nil

theorem asDocumented_of_plain (h : ∀ e ∈ given, suits e = true ∧ ¬ Strays e) :
    AsDocumented given (read given : Report (Notice α) _) := by
  have hread : read given = (⟨noticed given, .ok ⟨given.foldl assign Settings.standard, []⟩⟩ :
      Report (Notice α) _) := by
    have happend := readFrom_append_plain (α := α) h standard []
    rw [List.append_nil] at happend
    exact happend.trans (by simp [readFrom, standard])
  have hnone : ¬ ∃ e ∈ given, suits e = false := fun ⟨e, he, hwrong⟩ => by simp [h e he] at hwrong
  rw [hread]
  constructor
  case refused =>
    exact ⟨fun hfault => (nomatch hfault.choose_spec), fun hwrong => absurd hwrong hnone⟩
  case refusal => exact fun _ hfault => nomatch hfault
  case stored =>
    intro stored hstored
    obtain rfl := Except.ok.inj hstored
    exact ⟨updates_foldl (fun e he => ⟨(h e he).1, fun hover => (h e he).2 (Or.inr hover)⟩) _, rfl⟩
  case notices => rw [List.takeWhile_eq_self_iff.2 fun e he => (h e he).1]

theorem asDocumented_of_wrong (h : ∀ e ∈ before, suits e = true ∧ ¬ Strays e)
    {e : String × Document} (hwrong : suits e = false) :
    AsDocumented (before ++ e :: rest) (read (before ++ e :: rest) : Report (Notice α) _) := by
  obtain ⟨fault, hfault, hput⟩ := (putCase (α := α)
    ⟨before.foldl assign Settings.standard, []⟩ e).eq_of_wrong hwrong
  have hread : read (before ++ e :: rest) =
      (⟨noticed before, .error fault⟩ : Report (Notice α) _) := by
    refine (readFrom_append_plain h standard _).trans ?_
    rw [Report.bind_ok, readFrom_cons, standard, hput, Report.bind_error, List.append_nil]
  have hmem : e ∈ before ++ e :: rest := by simp
  rw [hread]
  constructor
  case refused => exact ⟨fun _ => ⟨e, hmem, hwrong⟩, fun _ => ⟨fault, rfl⟩⟩
  case refusal =>
    intro other hother
    obtain rfl := Except.error.inj hother
    exact ⟨e, hmem, hwrong, hfault⟩
  case stored => exact fun _ hstored => nomatch hstored
  case notices =>
    rw [List.takeWhile_append_of_pos fun e he => (h e he).1,
      List.takeWhile_cons_of_neg (by simp [hwrong]), List.append_nil]

theorem asDocumented_of_not_strays (h : ∀ e ∈ given.takeWhile suits, ¬ Strays e) :
    AsDocumented given (read given : Report (Notice α) _) := by
  have hplain : ∀ e ∈ given.takeWhile suits, suits e = true ∧ ¬ Strays e :=
    fun e he => ⟨List.mem_takeWhile_imp he, h e he⟩
  have hsplit := List.takeWhile_append_dropWhile (p := suits) (l := given)
  cases hrest : given.dropWhile suits with
  | nil =>
    rw [hrest, List.append_nil] at hsplit
    exact asDocumented_of_plain (hsplit ▸ hplain)
  | cons e rest =>
    have hwrong : suits e = false := by
      have hhead := List.head_dropWhile_not suits (l := given) (by simp [hrest])
      simpa [hrest] using hhead
    rw [← hsplit, hrest]
    exact asDocumented_of_wrong hplain hwrong

theorem not_strays_of_asDocumented (h : AsDocumented given (read given : Report (Notice α) _)) :
    ∀ e ∈ given.takeWhile suits, ¬ Strays e := by
  have hfree : ∀ e ∈ given.takeWhile suits, isTaken e.1 = false := by
    intro e he
    rw [Bool.eq_false_iff]
    intro htaken
    have hnot := not_isParameter_of_isTaken htaken
    have hnotice : (.unknownSetting e.1 : Notice α) ∈ (read given : Report (Notice α) _).notices :=
      h.notices ▸ List.mem_map.2 ⟨e, List.mem_filter.2 ⟨he, by simp [hnot]⟩, rfl⟩
    obtain ⟨key, hkey, hfree⟩ := notices_readFrom_free hnotice
    rw [← Notice.unknownSetting.inj hkey, htaken] at hfree
    cases hfree
  rintro e he (htaken | hover)
  · simp [hfree e he] at htaken
  · have hfault : (read given : Report (Notice α) _).result = .error .tooLarge :=
      readFrom_of_overflows hfree ⟨e, he, hover⟩
    obtain ⟨_, -, -, hflag | hnumber⟩ := h.refusal _ hfault
    · cases hflag
    · cases hnumber

end Reading

/-- The reading is as documented if and only if no entry strays before the first one of the wrong
kind; and wherever it does not fail, all parameters are right. -/
theorem read_asDocumented_iff (given : List (String × Document)) :
    (AsDocumented given (read given : Report (Notice α) _) ↔
      ∀ e ∈ given.takeWhile suits, ¬ Strays e) ∧
    ∀ stored, (read given : Report (Notice α) _).result = .ok stored →
      Updates Settings.standard given stored.settings ∧ ∀ o ∈ stored.others, o.1 ∈ takenNames :=
  ⟨⟨not_strays_of_asDocumented, asDocumented_of_not_strays⟩, fun _ => updates_of_read⟩

/-- A number under the name of a method is stored, and no notice is given. -/
theorem from_dict_stays :
    (read [("from_dict", .real 3)] : Report (Notice Float) _) =
      ⟨[], .ok ⟨Settings.standard, [("from_dict", 3)]⟩⟩ ∧
    ¬ AsDocumented (α := Float) [("from_dict", .real 3)] (read [("from_dict", .real 3)]) := by
  have hread : (read [("from_dict", .real 3)] : Report (Notice Float) _) =
      ⟨[], .ok ⟨Settings.standard, [("from_dict", 3)]⟩⟩ := by
    rfl
  refine ⟨hread, fun hdoc => ?_⟩
  rw [hread] at hdoc
  exact List.cons_ne_nil _ _ (hdoc.stored _ rfl).2

end StoredSettings

end LaneRoute
