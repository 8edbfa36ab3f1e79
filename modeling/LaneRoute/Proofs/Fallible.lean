import Mathlib.Data.List.Forall2
import LaneRoute.Report

/-!
# Steps that may fail

What is known of a run that did not fail: each of its steps did not fail, and what every step
keeps the run keeps. Of a run that may fail, it is told what its result is like and what its fault.
The result of a report is that of its steps; notices play no part.
-/

set_option autoImplicit false

namespace LaneRoute

namespace Fallible

variable {ε β γ : Type}

theorem bind_eq_ok {x : Except ε β} {next : β → Except ε γ} {c : γ} :
    (x >>= next) = .ok c ↔ ∃ b, x = .ok b ∧ next b = .ok c := by
  cases x with
  | error fault => simp [bind, Except.bind]
  | ok b => simp [bind, Except.bind]

theorem map_eq_ok {x : Except ε β} {f : β → γ} {c : γ} :
    x.map f = .ok c ↔ ∃ b, x = .ok b ∧ f b = c := by
  cases x with
  | error fault => simp [Except.map]
  | ok b => simp [Except.map]

theorem pure_eq_ok {b c : β} : (pure b : Except ε β) = .ok c ↔ b = c := by
  simp [pure, Except.pure]

theorem ok_of_toOption {x : Except ε β} {b : β} (h : x.toOption = some b) : x = .ok b := by
  cases x with
  | error fault => simp [Except.toOption] at h
  | ok c => exact congrArg _ (Option.some.inj h)

theorem forM_eq_ok {f : β → Except ε Unit} {bs : List β} (h : bs.forM f = .ok ()) :
    ∀ b ∈ bs, f b = .ok () := by
  induction bs with
  | nil => simp
  | cons b bs ih =>
    obtain ⟨_, hb, hrest⟩ := bind_eq_ok.1 h
    intro c hc
    rcases List.mem_cons.1 hc with rfl | hc
    · exact hb
    · exact ih hrest c hc

theorem exists_mapM {f : β → Except ε γ} {bs : List β} (h : ∀ b ∈ bs, ∃ c, f b = .ok c) :
    ∃ cs, bs.mapM f = .ok cs := by
  induction bs with
  | nil => exact ⟨[], rfl⟩
  | cons b bs ih =>
    obtain ⟨c, hc⟩ := h b (by simp)
    obtain ⟨cs, hcs⟩ := ih fun b' hb' => h b' (by simp [hb'])
    refine ⟨c :: cs, ?_⟩
    rw [List.mapM_cons, hc]
    exact bind_eq_ok.2 ⟨c, rfl, bind_eq_ok.2 ⟨cs, hcs, rfl⟩⟩

theorem mapM_eq_ok {f : β → Except ε γ} {g : β → γ} {bs : List β}
    (h : ∀ b ∈ bs, f b = .ok (g b)) : bs.mapM f = .ok (bs.map g) := by
  induction bs with
  | nil => rfl
  | cons b bs ih =>
    rw [List.mapM_cons, h b (by simp)]
    exact bind_eq_ok.2 ⟨_, rfl, bind_eq_ok.2 ⟨_, ih fun c hc => h c (by simp [hc]), rfl⟩⟩

theorem mem_of_mapM {f : β → Except ε γ} {bs : List β} {cs : List γ} (h : bs.mapM f = .ok cs)
    {c : γ} : c ∈ cs ↔ ∃ b ∈ bs, f b = .ok c := by
  induction bs generalizing cs with
  | nil => simp [← pure_eq_ok.1 h]
  | cons b bs ih =>
    rw [List.mapM_cons] at h
    obtain ⟨first, hfirst, hrest⟩ := bind_eq_ok.1 h
    obtain ⟨rest, hmap, hcs⟩ := bind_eq_ok.1 hrest
    rw [← pure_eq_ok.1 hcs]
    simp [hfirst, ih hmap, eq_comm]

/-- A run over a list keeps what every step of it keeps. -/
theorem foldlM_keeps {step : γ → β → Except ε γ} {bs : List β} {start stop : γ} {P : γ → Prop}
    (h : bs.foldlM step start = .ok stop) (hstart : P start)
    (hstep : ∀ b ∈ bs, ∀ x y, P x → step x b = .ok y → P y) : P stop := by
  induction bs generalizing start with
  | nil => exact pure_eq_ok.1 h ▸ hstart
  | cons b bs ih =>
    rw [List.foldlM_cons] at h
    obtain ⟨mid, hmid, hrest⟩ := bind_eq_ok.1 h
    exact ih hrest (hstep b (by simp) start mid hstart hmid)
      fun c hc => hstep c (List.mem_cons_of_mem b hc)

/-! ## Results and faults -/

/-- A run meets one condition with its result or another one with its fault. -/
def Yields (P : β → Prop) (R : ε → Prop) : Except ε β → Prop
  | .ok b => P b
  | .error fault => R fault

section Runs

variable {P : β → Prop} {Q : γ → Prop} {R S : ε → Prop} {x : Except ε β}

theorem Yields.imp {P' : β → Prop} (h : Yields P R x) (hP : ∀ b, P b → P' b)
    (hR : ∀ fault, R fault → S fault) : Yields P' S x := by
  cases x with
  | error fault => exact hR fault h
  | ok b => exact hP b h

theorem Yields.imp_fault (h : Yields P R x) (hR : ∀ fault, R fault → S fault) : Yields P S x :=
  h.imp (fun _ hb => hb) hR

theorem Yields.bind {next : β → Except ε γ} (h : Yields P R x)
    (hnext : ∀ b, P b → Yields Q R (next b)) : Yields Q R (x >>= next) := by
  cases x with
  | error fault => exact h
  | ok b => exact hnext b h

theorem yields_mapM {P : β → γ → Prop} {f : β → Except ε γ} {bs : List β}
    (h : ∀ b ∈ bs, Yields (P b) R (f b)) :
    Yields (fun cs => List.Forall₂ P bs cs) R (bs.mapM f) := by
  induction bs with
  | nil => exact List.Forall₂.nil
  | cons b bs ih =>
    rw [List.mapM_cons]
    refine (h b (by simp)).bind fun c hc => ?_
    refine (ih fun other hother => h other (by simp [hother])).bind fun cs hcs => ?_
    exact List.Forall₂.cons hc hcs

theorem forall_right {P : γ → Prop} {bs : List β} {cs : List γ}
    (h : List.Forall₂ (fun _ c => P c) bs cs) : ∀ c ∈ cs, P c := by
  induction h with
  | nil => simp
  | cons hc _ ih => simpa using ⟨hc, ih⟩

end Runs

end Fallible

namespace Report

variable {ν β γ : Type}

@[simp] theorem result_bind (r : Report ν β) (next : β → Report ν γ) :
    (r >>= next).result = r.result >>= fun b => (next b).result := by
  cases hr : r.result with
  | error fault => simp [bind, after, hr, Except.bind]
  | ok b => simp [bind, after, hr, Except.bind]

@[simp] theorem result_ofExcept (x : Except Fault β) :
    (ofExcept x : Report ν β).result = x := rfl

end Report

end LaneRoute
