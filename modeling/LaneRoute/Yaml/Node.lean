import LaneRoute.Yaml.Token

/-!
# Nodes

How the tokens of a text nest: scalars, lists and mappings, before it is known what the scalars
stand for.
-/

set_option autoImplicit false

namespace LaneRoute.Yaml

inductive Node where
  | plain (text : String)
  | quoted (text : String)
  | list (items : List Node)
  | mapping (entries : List (Node × Node))
  | refused
deriving Inhabited

abbrev NodeEntries := List (Node × Node)

/-! Each reader returns what it read and the tokens after it. -/

mutual

/-- A node in a block or, with `flow`, in brackets. In the value of a block key a list may
stand without an indentation of its own. -/
def node (steps : Nat) (flow bare : Bool) (ts : List Token) : Option (Node × List Token) :=
  match steps, ts with
  | steps + 1, .item :: _ =>
    if bare then (bareList steps ts).map fun r => (.list r.1, r.2) else none
  | _, .scalar text isPlain :: rest =>
    some (if isPlain then .plain text else .quoted text, rest)
  | steps + 1, .openList :: rest => (flowList steps true rest).map fun r => (.list r.1, r.2)
  | steps + 1, .openMap :: rest => (flowMap steps true rest).map fun r => (.mapping r.1, r.2)
  | steps + 1, .openBlockList :: rest =>
    if flow then none else (blockList steps rest).map fun r => (.list r.1, r.2)
  | steps + 1, .openBlockMap :: rest =>
    if flow then none
    else (blockMap steps rest).map fun r => (.mapping r.1, r.2)
  | _, _ => none

def optional (steps : Nat) (flow bare : Bool) (ends : List Token) (ts : List Token) :
    Option (Node × List Token) :=
  match steps with
  | 0 => none
  | steps + 1 =>
    if ts.head?.all ends.contains then some (.plain "", ts) else node steps flow bare ts

def blockList (steps : Nat) (ts : List Token) : Option (List Node × List Token) :=
  match steps, ts with
  | steps + 1, .item :: rest => do
    let (n, rest) ← optional steps false false [.item, .closeBlock] rest
    let (nodes, rest) ← blockList steps rest
    return (n :: nodes, rest)
  | _, .closeBlock :: rest => some ([], rest)
  | _, _ => none

def bareList (steps : Nat) (ts : List Token) : Option (List Node × List Token) :=
  match steps, ts with
  | steps + 1, .item :: rest => do
    let (n, rest) ← optional steps false false [.item, .key, .value, .closeBlock] rest
    let (nodes, rest) ← bareList steps rest
    return (n :: nodes, rest)
  | 0, _ => none
  | _, _ => some ([], ts)

def keyValue (steps : Nat) (flow : Bool) (ends ts : List Token) :
    Option (Node × List Token) :=
  match steps, ts with
  | steps + 1, .value :: rest => optional steps flow (!flow) ends rest
  | 0, _ => none
  | _, _ => some (.plain "", ts)

def blockMap (steps : Nat) (ts : List Token) : Option (NodeEntries × List Token) :=
  match steps, ts with
  | steps + 1, .key :: rest => do
    let ends : List Token := [.key, .value, .closeBlock]
    let (k, rest) ← optional steps false true ends rest
    let (v, rest) ← keyValue steps false ends rest
    let (entries, rest) ← blockMap steps rest
    return ((k, v) :: entries, rest)
  | _, .closeBlock :: rest => some ([], rest)
  | _, _ => none

/-- The items in brackets up to the closing one; a key makes a mapping of one entry. -/
def flowList (steps : Nat) (isFirst : Bool) (ts : List Token) :
    Option (List Node × List Token) :=
  match steps with
  | 0 => none
  | steps + 1 =>
    match isFirst, ts with
    | _, .closeList :: rest => some ([], rest)
    | false, .comma :: .closeList :: rest => some ([], rest)
    | false, .comma :: rest => flowItems steps rest
    | true, rest => flowItems steps rest
    | _, _ => none

def flowItems (steps : Nat) (ts : List Token) : Option (List Node × List Token) :=
  match steps, ts with
  | steps + 1, .key :: rest => do
    let (k, rest) ← optional steps true false [.value, .comma, .closeList] rest
    let (v, rest) ← keyValue steps true [.comma, .closeList] rest
    let (nodes, rest) ← flowList steps false rest
    return (.mapping [(k, v)] :: nodes, rest)
  | steps + 1, ts => do
    let (n, rest) ← node steps true false ts
    let (nodes, rest) ← flowList steps false rest
    return (n :: nodes, rest)
  | 0, _ => none

/-- The entries in braces up to the closing one; a node without a colon is a key of nothing. -/
def flowMap (steps : Nat) (isFirst : Bool) (ts : List Token) : Option (NodeEntries × List Token) :=
  match steps with
  | 0 => none
  | steps + 1 =>
    match isFirst, ts with
    | _, .closeMap :: rest => some ([], rest)
    | false, .comma :: .closeMap :: rest => some ([], rest)
    | false, .comma :: rest => flowEntries steps rest
    | true, rest => flowEntries steps rest
    | _, _ => none

def flowEntries (steps : Nat) (ts : List Token) : Option (NodeEntries × List Token) :=
  match steps, ts with
  | steps + 1, .key :: rest => do
    let (k, rest) ← optional steps true false [.value, .comma, .closeMap] rest
    let (v, rest) ← keyValue steps true [.comma, .closeMap] rest
    let (entries, rest) ← flowMap steps false rest
    return ((k, v) :: entries, rest)
  | steps + 1, ts => do
    let (k, rest) ← node steps true false ts
    let (entries, rest) ← flowMap steps false rest
    return ((k, .plain "") :: entries, rest)
  | 0, _ => none

end

/-- The node of some tokens; after it only its end may be marked. -/
def Node.ofTokens (ts : List Token) : Option Node := do
  let steps := 3 * ts.length + 3
  let (n, rest) ← match ts with
    | [] => some (.plain "", [])
    | .documentStart :: rest => optional steps false false [.documentStart, .documentEnd] rest
    | ts => node steps false false ts
  if rest.all (· = .documentEnd) then some n else none

end LaneRoute.Yaml
