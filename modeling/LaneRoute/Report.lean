import LaneRoute.Fault

/-!
# Reports

A result or a fault, together with the notices given on the way. A fault does not take
back what was noticed before it.
-/

set_option autoImplicit false

namespace LaneRoute

structure Report (ν β : Type) where
  notices : List ν
  result : Except Fault β

namespace Report

variable {ν β γ : Type}

def ofExcept (result : Except Fault β) : Report ν β := ⟨[], result⟩

def notice (n : ν) : Report ν Unit := ⟨[n], .ok ()⟩

def after (r : Report ν β) (next : β → Report ν γ) : Report ν γ :=
  match r.result with
  | .error fault => ⟨r.notices, .error fault⟩
  | .ok b => ⟨r.notices ++ (next b).notices, (next b).result⟩

instance : Monad (Report ν) where
  pure b := ⟨[], .ok b⟩
  bind := after

@[simp] theorem pure_eq (b : β) : (pure b : Report ν β) = ⟨[], .ok b⟩ := rfl

@[simp] theorem bind_ok (ns : List ν) (b : β) (next : β → Report ν γ) :
    ((⟨ns, .ok b⟩ : Report ν β) >>= next) = ⟨ns ++ (next b).notices, (next b).result⟩ := rfl

@[simp] theorem bind_error (ns : List ν) (fault : Fault) (next : β → Report ν γ) :
    ((⟨ns, .error fault⟩ : Report ν β) >>= next) = ⟨ns, .error fault⟩ := rfl

end Report

end LaneRoute
