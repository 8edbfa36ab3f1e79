import LaneRoute.Network.Lateral

/-!
# Spelled ids

Ids are whole numbers, but a segment may write the ids that it names in other ways, as a
decimal fraction or as a truth value. Lists that follow such references show them as they are
written, and ids that come from the segments themselves in digits.
-/

set_option autoImplicit false

namespace LaneRoute

namespace Segment

variable {α : Type}

def spelled (words : List Document) (ids : List Int) : List Document :=
  words ++ (ids.drop words.length).map .int

def successorWords (s : Segment α) : List Document := spelled s.spelling.successors s.successors

def predecessorWords (s : Segment α) : List Document :=
  spelled s.spelling.predecessors s.predecessors

def leftWord (s : Segment α) : Option Document :=
  s.left.neighbor.map fun id => s.spelling.left.getD (.int id)

def rightWord (s : Segment α) : Option Document :=
  s.right.neighbor.map fun id => s.spelling.right.getD (.int id)

end Segment

namespace RoadNetwork

variable {α : Type}

def changeWords (net : RoadNetwork α) (s : Segment α) : List (Int × Document) :=
  let left := (net.sideTarget? s.left).bind fun id => s.leftWord.map fun word => (id, word)
  let right := (net.sideTarget? s.right).bind fun id => s.rightWord.map fun word => (id, word)
  left.toList ++ right.toList

def targetWord (net : RoadNetwork α) (s : Segment α) (target : Int) : Document :=
  let words := s.successors.zip s.successorWords ++ net.changeWords s
  (words.lookup target).getD (.int target)

def pathWordsFrom (net : RoadNetwork α) (id : Int) : List Int → List Document
  | [] => []
  | next :: rest =>
    (((net.segment? id).map fun s => net.targetWord s next).getD (.int next))
      :: pathWordsFrom net next rest

def pathWords (net : RoadNetwork α) : List Int → List Document
  | [] => []
  | id :: rest => .int id :: net.pathWordsFrom id rest

def besideWords (net : RoadNetwork α) (word : Segment α → Option Document) (id : Int) :
    List Int → List (Int × Document)
  | [] => []
  | next :: rest =>
    (next, ((net.segment? id).bind word).getD (.int next)) :: besideWords net word next rest

/-- A lane that is written in some way and all lanes of its direction beside it, from left to
right, with their spellings. -/
def lateralWords (net : RoadNetwork α) (id : Int) (word : Document) : List (Int × Document) :=
  let left := net.lanesBeside (·.left) [id] id
  let right := net.besideWords (·.rightWord) id (net.lanesBeside (·.right) [id] id)
  (net.besideWords (·.leftWord) id left).reverse ++ (id, word) :: right.filter fun w => w.1 ∉ left

end RoadNetwork

end LaneRoute
