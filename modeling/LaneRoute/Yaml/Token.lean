import LaneRoute.Yaml.Flow

/-!
# Tokens

The tokens of a text in which indentation nests blocks and brackets nest flows. Whether a node
is a key shows only at the colon after it, so the places where keys may have started are kept,
and the tokens that open a block or a key are put back there.
-/

set_option autoImplicit false

namespace LaneRoute.Yaml

inductive Token where
  | documentStart
  | documentEnd
  | openBlockList
  | openBlockMap
  | closeBlock
  | openList
  | closeList
  | openMap
  | closeMap
  | item
  | comma
  | key
  | value
  | scalar (text : String) (isPlain : Bool)
deriving DecidableEq

/-- A place where a key may have started: the tokens before it, where it stands, and whether
nothing but a key can stand there. -/
structure KeyPlace where
  before : Nat
  line : Nat
  column : Nat
  offset : Nat
  required : Bool

/-- The tokens so far with the last one first, the indentations of the open blocks with the
innermost first, for each open bracket and for the block around them the place where a key
may have started, and whether a key may start here. -/
structure Layout where
  tokens : List Token
  indents : List Int
  places : List (Option KeyPlace)
  keyAllowed : Bool

namespace Layout

def start : Layout := ⟨[], [], [none], true⟩

def indent (l : Layout) : Int := l.indents.headD (-1)

def inBrackets (l : Layout) : Bool := 1 < l.places.length

def push (l : Layout) (t : Token) : Layout := { l with tokens := t :: l.tokens }

def keyReach : Nat := 1024

def isStale (p : Cursor) (k : KeyPlace) : Bool :=
  k.line ≠ p.line || keyReach < p.offset - k.offset

/-- Forget the places that are too far back for a key; a required key must not be lost. -/
def dropStale (l : Layout) (p : Cursor) : Option Layout :=
  let stale (k : Option KeyPlace) := k.any (isStale p)
  if l.places.any fun k => stale k && k.any (·.required) then none
  else some { l with places := l.places.map fun k => if stale k then none else k }

def setPlace (l : Layout) (k : Option KeyPlace) : Layout := { l with places := k :: l.places.tail }

def place (l : Layout) : Option KeyPlace := l.places.head?.join

def dropPlace (l : Layout) : Option Layout :=
  if l.place.any (·.required) then none else some (l.setPlace none)

def markPlace (l : Layout) (p : Cursor) : Option Layout := do
  if !l.keyAllowed then return l
  let l ← l.dropPlace
  let required := !l.inBrackets && l.indent = (p.column : Int)
  return l.setPlace (some ⟨l.tokens.length, p.line, p.column, p.offset, required⟩)

def closeBlocks (l : Layout) (column : Int) : Layout :=
  if l.inBrackets then l
  else
    let closed := l.indents.takeWhile (column < ·)
    { l with
      tokens := closed.map (fun _ => .closeBlock) ++ l.tokens
      indents := l.indents.drop closed.length }

def opensBlock (l : Layout) (column : Nat) : Bool := l.indent < (column : Int)

def openBlock (l : Layout) (column : Nat) : Layout :=
  { l with indents := (column : Int) :: l.indents }

def insert (l : Layout) (before : Nat) (ts : List Token) : Layout :=
  let behind := l.tokens.length - before
  { l with tokens := l.tokens.take behind ++ ts ++ l.tokens.drop behind }

def documentMark (l : Layout) (t : Token) : Option Layout := do
  let l ← (l.closeBlocks (-1)).dropPlace
  return { l.push t with keyAllowed := false }

def openBracket (l : Layout) (p : Cursor) (t : Token) : Option Layout := do
  let l ← l.markPlace p
  return { l.push t with places := none :: l.places, keyAllowed := true }

def closeBracket (l : Layout) (t : Token) : Option Layout := do
  let l ← l.dropPlace
  if !l.inBrackets then none
  return { l.push t with places := l.places.tail, keyAllowed := false }

def comma (l : Layout) : Option Layout := do
  let l ← l.dropPlace
  return { l.push .comma with keyAllowed := true }

def blockEntry (l : Layout) (p : Cursor) (opening t : Token) : Option Layout := do
  if !l.inBrackets && !l.keyAllowed then none
  let l := if !l.inBrackets && l.opensBlock p.column then
      (l.openBlock p.column).push opening
    else l
  let l ← l.dropPlace
  return { l.push t with keyAllowed := t = .item || !l.inBrackets }

/-- A colon makes the node before it a key if one may have started there. -/
def colon (l : Layout) (p : Cursor) : Option Layout :=
  match l.place with
  | some k =>
    let l := l.setPlace none
    let l := if !l.inBrackets && l.opensBlock k.column then
        (l.openBlock k.column).insert k.before [.key, .openBlockMap]
      else l.insert k.before [.key]
    some { l.push .value with keyAllowed := false }
  | none => do
    if !l.inBrackets && !l.keyAllowed then none
    let l := if !l.inBrackets && l.opensBlock p.column then
        (l.openBlock p.column).push .openBlockMap
      else l
    let l ← l.dropPlace
    return { l.push .value with keyAllowed := !l.inBrackets }

end Layout

/-! ## Reading tokens -/

/-- Pass spaces, comments and breaks up to the next token; after a break a key may start. -/
def toToken (steps : Nat) (p : Cursor) (keyAllowed inBrackets : Bool) : Cursor × Bool :=
  match steps with
  | 0 => (p, keyAllowed)
  | steps + 1 =>
    let p := (p.skipWhile (· = ' ')).2
    let p := if p.peek? = some '#' then (p.skipWhile fun c => !isBreak c).2 else p
    if p.atBreak then toToken steps p.next (keyAllowed || !inBrackets) inBrackets
    else (p, keyAllowed)

def indicators : List Char := "-?:,[]\x7b\x7d#&*!|>'\"%@\x60".toList

def startsPlain (inBrackets : Bool) (p : Cursor) : Bool :=
  match p.peek? with
  | none => false
  | some c =>
    !isBlank c && (!indicators.contains c
      || (!p.blankAt 1 && (c = '-' || (!inBrackets && (c = '?' || c = ':')))))

def oneToken (l : Layout) (p : Cursor) : Reading (Layout × Cursor) := do
  let moved (n : Nat) (l : Option Layout) := orUnreadable (l.map fun l => (l, p.skip n))
  match p.peek? with
  | none => .error .unreadable
  | some c =>
    if p.column = 0 && p.marker '-' then moved 3 (l.documentMark .documentStart)
    else if p.column = 0 && p.marker '.' then moved 3 (l.documentMark .documentEnd)
    else if c = '[' then moved 1 (l.openBracket p .openList)
    else if c = '\x7b' then moved 1 (l.openBracket p .openMap)
    else if c = ']' then moved 1 (l.closeBracket .closeList)
    else if c = '\x7d' then moved 1 (l.closeBracket .closeMap)
    else if c = ',' then moved 1 l.comma
    else if c = '-' && p.blankAt 1 then moved 1 (l.blockEntry p .openBlockList .item)
    else if c = '?' && (l.inBrackets || p.blankAt 1) then
      moved 1 (l.blockEntry p .openBlockMap .key)
    else if c = ':' && (l.inBrackets || p.blankAt 1) then moved 1 (l.colon p)
    else if c = '\'' || c = '"' then do
      let l ← orUnreadable (l.markPlace p)
      let (text, p) ← quoted p
      return ({ l.push (.scalar (String.ofList text) false) with keyAllowed := false }, p)
    else if startsPlain l.inBrackets p then do
      let l ← orUnreadable (l.markPlace p)
      let read := plain l.inBrackets (l.indent + 1) p
      return ({ l.push (.scalar (String.ofList read.chars) true) with
        keyAllowed := read.keyAllowed }, read.cursor)
    else .error .unreadable

/-- Read tokens to the end; every token takes at least one character. -/
def tokensFrom (steps : Nat) (l : Layout) (p : Cursor) : Reading (List Token) :=
  match steps with
  | 0 => .error .unreadable
  | steps + 1 => do
    let (p, keyAllowed) := toToken (p.rest.length + 1) p l.keyAllowed l.inBrackets
    let l ← orUnreadable ({ l with keyAllowed := keyAllowed }.dropStale p)
    if p.rest.isEmpty then
      let l ← orUnreadable (l.closeBlocks (-1)).dropPlace
      return l.tokens.reverse
    else
      let (l, p) ← oneToken (l.closeBlocks p.column) p
      tokensFrom steps l p

def tokens (text : List Char) : Reading (List Token) :=
  tokensFrom (text.length + 1) .start (.start text)

end LaneRoute.Yaml
