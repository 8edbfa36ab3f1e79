import LaneRoute.Fault
import LaneRoute.Yaml.Basic

/-!
# Documents in files

Reading the document of a text, with the faults that a reader of it is told.
-/

set_option autoImplicit false

namespace LaneRoute.Document

/-- The document of a text; what to report of one that is not well formed is the reader's. -/
def ofText (unreadable : Fault) (text : String) : Except Fault Document :=
  (Yaml.read text).mapError fun
    | .unreadable => unreadable
    | .badValue => .badValue
    | .tooLarge => .tooLarge

end LaneRoute.Document
