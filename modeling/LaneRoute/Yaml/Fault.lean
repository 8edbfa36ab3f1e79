/-!
# Faults of texts

Why a text holds no document: it is not well formed, or a value in it makes no sense or is too
large.
-/

set_option autoImplicit false

namespace LaneRoute.Yaml

inductive ReadFault where
  | unreadable
  | badValue
  | tooLarge

abbrev Reading := Except ReadFault

def orUnreadable {β : Type} : Option β → Reading β
  | some b => .ok b
  | none => .error .unreadable

end LaneRoute.Yaml
