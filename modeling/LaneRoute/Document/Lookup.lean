import LaneRoute.Fault

/-!
# Mentions

Asking any value for a key, whether or not it is a mapping.
-/

set_option autoImplicit false

namespace LaneRoute.Document

def occursIn (part : List Char) : List Char → Bool
  | [] => part.isEmpty
  | c :: rest => part.isPrefixOf (c :: rest) || occursIn part rest

/-- Whether a document mentions a key: as a key, as an item, or inside a text. -/
def mentions (d : Document) (key : String) : Except Fault Bool :=
  match d with
  | .mapping entries => .ok (lookup? key entries).isSome
  | .list items => .ok (items.any (·.isText key))
  | .text s => .ok (occursIn key.toList s.toList)
  | _ => .error .wrongKind

end LaneRoute.Document
