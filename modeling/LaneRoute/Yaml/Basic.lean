import LaneRoute.Number.Binary
import LaneRoute.Yaml.Node
import LaneRoute.Yaml.Scalar

/-!
# Documents from text

The document that a text of nested blocks and flows describes. A text that holds no document
stands for nothing; one that holds several, or none that is well formed, cannot be read.
-/

set_option autoImplicit false

namespace LaneRoute.Yaml

/-! ## Keys -/

def keyNumber? : Document → Option Rat
  | .bool b => some (if b then 1 else 0)
  | .int i => some i
  | .real x => Binary.rational? x
  | _ => none

/-- Whether two keys are the same. Marks and numbers are when they are equal in number. -/
def sameKey (a b : Document) : Bool :=
  match a, b with
  | .null, .null => true
  | .text s, .text t => s = t
  | .date d, .date e => d = e
  | .moment m, .moment n => m.isSame n
  | a, b =>
    match keyNumber? a, keyNumber? b with
    | some p, some q => p = q
    | none, none =>
      match a, b with
      | .real x, .real y => x == y || (x.isNaN && y.isNaN)
      | _, _ => false
    | _, _ => false

def isKey : Document → Bool
  | .list _ => false
  | .mapping _ => false
  | _ => true

abbrev Entries := List (Document × Document)

def putEntry (key value : Document) : Entries → Entries
  | [] => [(key, value)]
  | (k, v) :: rest =>
    if sameKey k key then (k, value) :: rest else (k, v) :: putEntry key value rest

def distinct (entries : Entries) : Entries :=
  entries.foldl (fun done e => putEntry e.1 e.2 done) []

/-! ## Merged mappings -/

namespace Node

def isMerge : Node → Bool
  | plain "<<" => true
  | _ => false

/-- The entries that a value gives to the mapping that it is merged into: those of a mapping,
or of the mappings in a list, the last one first. -/
def given? : Node → Option NodeEntries
  | mapping entries => some entries
  | list items => do
    let parts ← items.mapM fun
      | mapping entries => some entries
      | _ => none
    return parts.reverse.flatten
  | _ => none

mutual

def expanded : Node → Node
  | list items => list (expandedAll items)
  | mapping entries =>
    match expandedEntries entries with
    | some (merged, own) => mapping (merged ++ own)
    | none => refused
  | n => n

def expandedAll : List Node → List Node
  | [] => []
  | n :: rest => expanded n :: expandedAll rest

/-- The entries merged into a mapping, and its own. -/
def expandedEntries : NodeEntries → Option (NodeEntries × NodeEntries)
  | [] => some ([], [])
  | (k, v) :: rest => do
    let (merged, own) ← expandedEntries rest
    if k.isMerge then return ((← (expanded v).given?) ++ merged, own)
    else return (merged, (expanded k, expanded v) :: own)

end

/-! ## Values -/

/-- A fault and how deep in a node it lies. -/
structure Flaw where
  depth : Nat
  fault : ReadFault

/-- Of two flaws the less deep one is met first, and of equally deep ones the first. -/
def both {β γ δ : Type} (f : β → γ → δ) (a : Except Flaw β) (b : Except Flaw γ) :
    Except Flaw δ :=
  match a, b with
  | .ok x, .ok y => .ok (f x y)
  | .error p, .error q => .error (if q.depth < p.depth then q else p)
  | .error p, .ok _ => .error p
  | .ok _, .error q => .error q

def atDepth {β : Type} (depth : Nat) (r : Reading β) : Except Flaw β := r.mapError (⟨depth, ·⟩)

def deeper {β : Type} (r : Except Flaw β) : Except Flaw β :=
  r.mapError fun f => ⟨f.depth + 1, f.fault⟩

/-- A key, which may be an equals sign but neither a list nor a mapping. -/
def asKey (k : Node) (d : Except Flaw Document) : Except Flaw Document :=
  match k with
  | plain "=" => .ok (.text "=")
  | list _ => .error ⟨0, .unreadable⟩
  | mapping _ => .error ⟨0, .unreadable⟩
  | refused => .error ⟨0, .unreadable⟩
  | _ => d

mutual

def value : Node → Except Flaw Document
  | plain text => atDepth 0 (Scalar.value text)
  | quoted text => .ok (.text text)
  | list items => deeper ((values items).map .list)
  | mapping entries => deeper ((entryValues entries).map fun es => .mapping (distinct es))
  | refused => .error ⟨1, .unreadable⟩

def values : List Node → Except Flaw (List Document)
  | [] => .ok []
  | n :: rest => both List.cons (value n) (values rest)

def entryValues : NodeEntries → Except Flaw Entries
  | [] => .ok []
  | (k, v) :: rest =>
    both List.cons (both Prod.mk (asKey k (value k)) (value v)) (entryValues rest)

end

def document (n : Node) : Reading Document := n.expanded.value.mapError (·.fault)

end Node

def isAllowed (c : Char) : Bool :=
  let n := c.toNat
  n = 9 || n = 10 || n = 13 || (0x20 ≤ n && n ≤ 0x7e) || n = 0x85
    || (0xa0 ≤ n && n ≤ 0xd7ff) || (0xe000 ≤ n && n ≤ 0xfffd) || 0x10000 ≤ n

def unixBreaks : List Char → List Char
  | '\r' :: '\n' :: rest => '\n' :: unixBreaks rest
  | '\r' :: rest => '\n' :: unixBreaks rest
  | c :: rest => c :: unixBreaks rest
  | [] => []

def read (text : String) : Reading Document := do
  let cs := unixBreaks text.toList
  if cs.all isAllowed then
    let node ← orUnreadable (Node.ofTokens (← tokens cs))
    node.document
  else .error .unreadable

end LaneRoute.Yaml
