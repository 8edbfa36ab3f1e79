import LaneRoute.Proofs.Fallible

/-!
# Checks in order

A run that reads something makes checks, one after another, and ends at the first that fails. Each
check says what would be wrong, and whether the fault is one that is reported. A run that makes some
checks has a result exactly when nothing is wrong, and a fault of one kind or the other exactly when
the first check that fails is of this kind.
-/

set_option autoImplicit false

namespace LaneRoute

open Fallible (Yields)

/-- What would be wrong, and whether it is reported then. -/
structure Check where
  fails : Prop
  isReported : Bool

namespace Check

def Pass (checks : List Check) : Prop := ∀ check ∈ checks, ¬ check.fails

/-- The first check that fails, of which it is told whether it is reported. -/
inductive FirstFails (isReported : Bool) : List Check → Prop
  | here {check : Check} {rest : List Check} (fails : check.fails)
      (kind : check.isReported = isReported) : FirstFails isReported (check :: rest)
  | later {check : Check} {rest : List Check} (passes : ¬ check.fails)
      (fails : FirstFails isReported rest) : FirstFails isReported (check :: rest)

variable {checks more : List Check} {r : Bool}

theorem pass_append : Pass (checks ++ more) ↔ Pass checks ∧ Pass more := List.forall_mem_append

theorem pass_flatMap {γ : Type} {f : γ → List Check} {cs : List γ} :
    Pass (cs.flatMap f) ↔ ∀ c ∈ cs, Pass (f c) := by
  simp only [Pass, List.mem_flatMap]
  exact ⟨fun h c hc check hcheck => h check ⟨c, hc, hcheck⟩,
    fun h check ⟨c, hc, hcheck⟩ => h c hc check hcheck⟩

theorem FirstFails.append (h : FirstFails r checks) (more : List Check) :
    FirstFails r (checks ++ more) := by
  induction h with
  | here hfails hkind => exact .here hfails hkind
  | later hpasses _ ih => exact .later hpasses ih

theorem FirstFails.after (h : FirstFails r more) (hpass : Pass checks) :
    FirstFails r (checks ++ more) := by
  induction checks with
  | nil => exact h
  | cons check checks ih =>
    obtain ⟨hcheck, hrest⟩ := List.forall_mem_cons.1 hpass
    exact .later hcheck (ih hrest)

theorem FirstFails.not_pass (h : FirstFails r checks) : ¬ Pass checks := by
  induction h with
  | here hfails _ => exact fun hpass => hpass _ (by simp) hfails
  | later _ _ ih => exact fun hpass => ih fun check hcheck => hpass check (by simp [hcheck])

theorem FirstFails.unique {s : Bool} (h : FirstFails r checks) (hs : FirstFails s checks) :
    r = s := by
  induction h with
  | here hfails hkind =>
    cases hs with
    | here _ hother => exact hkind.symm.trans hother
    | later hpasses _ => exact absurd hfails hpasses
  | later hpasses _ ih =>
    cases hs with
    | here hfails _ => exact absurd hfails hpasses
    | later _ hrest => exact ih hrest

/-! ## Runs that make checks -/

variable {ε β γ : Type}

/-- A run has a result of some kind when all its checks pass, and otherwise a fault that is reported
when the first check that fails is. -/
def Made (tells : ε → Bool) (checks : List Check) (P : β → Prop) : Except ε β → Prop :=
  Yields (fun b => Pass checks ∧ P b) (fun fault => FirstFails (tells fault) checks)

variable {tells : ε → Bool} {P : β → Prop} {Q : γ → Prop} {x : Except ε β}

theorem made_pure {b : β} (h : P b) : Made tells [] P (.ok b) := ⟨by simp [Pass], h⟩

theorem Made.imp {P' : β → Prop} (h : Made tells checks P x) (hP : ∀ b, P b → P' b) :
    Made tells checks P' x :=
  Yields.imp h (fun b hb => ⟨hb.1, hP b hb.2⟩) fun _ hfault => hfault

theorem Made.and_eq (h : Made tells checks P x) :
    Made tells checks (fun b => P b ∧ x = .ok b) x := by
  cases x with
  | error fault => exact h
  | ok b => exact ⟨h.1, h.2, rfl⟩

theorem made_one {C : Prop}
    (h : Yields (fun b => ¬ C ∧ P b) (fun fault => C ∧ tells fault = r) x) :
    Made tells [⟨C, r⟩] P x := by
  cases x with
  | error fault => exact .here h.1 h.2.symm
  | ok b => exact ⟨by simpa [Pass] using h.1, h.2⟩

theorem Made.imp_one {C D : Prop} (h : Made tells [⟨C, r⟩] P x) (hD : C → D) :
    Yields P (fun fault => D ∧ tells fault = r) x :=
  Yields.imp h (fun _ hb => hb.2) fun fault hfault => by
    cases hfault with
    | here hfails hkind => exact ⟨hD hfails, hkind.symm⟩
    | later _ hrest => cases hrest

theorem Made.later {check : Check} (hpasses : ¬ check.fails) (h : Made tells checks P x) :
    Made tells (check :: checks) P x := by
  cases x with
  | error fault => exact .later hpasses h
  | ok b => exact ⟨List.forall_mem_cons.2 ⟨hpasses, h.1⟩, h.2⟩

theorem Made.tail {check : Check} (h : Made tells (check :: checks) P x)
    (hpasses : ¬ check.fails) : Made tells checks P x := by
  cases x with
  | error fault =>
    cases h with
    | here hfails _ => exact absurd hfails hpasses
    | later _ hrest => exact hrest
  | ok b => exact ⟨(List.forall_mem_cons.1 h.1).2, h.2⟩

theorem Made.bind {next : β → Except ε γ} (h : Made tells checks P x)
    (hnext : ∀ b, P b → Made tells more Q (next b)) :
    Made tells (checks ++ more) Q (x >>= next) := by
  cases x with
  | error fault => exact FirstFails.append h more
  | ok b =>
    refine Yields.imp (hnext b h.2) (fun c hc => ?_) fun _ hfault => FirstFails.after hfault h.1
    exact ⟨pass_append.2 ⟨h.1, hc.1⟩, hc.2⟩

theorem Made.then {next : β → Except ε γ} (h : Made tells checks P x)
    (hnext : ∀ b, P b → Made tells [] Q (next b)) : Made tells checks Q (x >>= next) := by
  simpa using h.bind hnext

theorem made_mapM {P : γ → β → Prop} {f : γ → Except ε β} {checks : γ → List Check} {cs : List γ}
    (h : ∀ c ∈ cs, Made tells (checks c) (P c) (f c)) :
    Made tells (cs.flatMap checks) (fun bs => List.Forall₂ P cs bs) (cs.mapM f) := by
  induction cs with
  | nil => exact made_pure List.Forall₂.nil
  | cons c cs ih =>
    rw [List.mapM_cons, List.flatMap_cons]
    refine (h c (by simp)).bind fun b hb => ?_
    refine (ih fun other hother => h other (by simp [hother])).then fun bs hbs => ?_
    exact made_pure (List.Forall₂.cons hb hbs)

theorem Made.exists_ok_iff (h : Made tells checks P x) : (∃ b, x = .ok b) ↔ Pass checks := by
  cases x with
  | error fault => simpa using FirstFails.not_pass h
  | ok b => simpa using h.1

theorem Made.exists_error_iff (h : Made tells checks P x) (r : Bool) :
    (∃ fault, x = .error fault ∧ tells fault = r) ↔ FirstFails r checks := by
  cases x with
  | error fault =>
    constructor
    · rintro ⟨other, hother, hkind⟩
      obtain rfl := Except.error.inj hother
      exact hkind ▸ h
    · exact fun hfirst => ⟨fault, rfl, FirstFails.unique h hfirst⟩
  | ok b => simpa using fun hfirst => absurd h.1 (FirstFails.not_pass hfirst)

end Check

end LaneRoute
