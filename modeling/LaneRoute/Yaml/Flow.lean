import LaneRoute.Yaml.Cursor
import LaneRoute.Yaml.Fault

/-!
# Scalars in a text

Reading one scalar, quoted or plain, from a place in a text. A scalar may run over several
lines, which are then folded into one.
-/

set_option autoImplicit false

namespace LaneRoute.Yaml

/-! ## Quoted scalars -/

def escapes : List (Char × Char) :=
  [('0', '\x00'), ('a', '\x07'), ('b', '\x08'), ('t', '\t'), ('\t', '\t'), ('n', '\n'),
   ('v', '\x0b'), ('f', '\x0c'), ('r', '\r'), ('e', '\x1b'), (' ', ' '), ('"', '"'),
   ('\\', '\\'), ('/', '/'), ('N', '\x85'), ('_', '\xa0'), ('L', '\u2028'), ('P', '\u2029')]

def codeLengths : List (Char × Nat) := [('x', 2), ('u', 4), ('U', 8)]

def hexDigit? (c : Char) : Option Nat :=
  if '0' ≤ c && c ≤ '9' then some (c.toNat - '0'.toNat)
  else if 'a' ≤ c && c ≤ 'f' then some (c.toNat - 'a'.toNat + 10)
  else if 'A' ≤ c && c ≤ 'F' then some (c.toNat - 'A'.toNat + 10)
  else none

def maxCode : Nat := 0x7fffffff

def codePoint (digits : List Char) : Reading Char := do
  let ds ← orUnreadable (digits.mapM hexDigit?)
  let code := ds.foldl (fun n d => 16 * n + d) 0
  if maxCode < code then .error .tooLarge
  else if 0x10ffff < code then .error .badValue
  else return Char.ofNat code

/-- Pass the breaks and the blanks before each line; a document mark must not come. -/
def quotedBreaks (steps : Nat) (p : Cursor) : Reading (List Char × Cursor) :=
  match steps with
  | 0 => .error .unreadable
  | steps + 1 =>
    if p.atDocumentMark then .error .unreadable
    else
      let p := (p.skipWhile fun c => c = ' ' || c = '\t').2
      if p.atBreak then do
        let (taken, p) := p.takeBreak
        let (others, p) ← quotedBreaks steps p
        return (taken ++ others, p)
      else .ok ([], p)

def quotedFrom (quote : Char) (steps : Nat) (p : Cursor) : Reading (List Char × Cursor) :=
  match steps with
  | 0 => .error .unreadable
  | steps + 1 =>
    let double := quote = '"'
    let continued (taken : List Char) (p : Cursor) : Reading (List Char × Cursor) := do
      let (others, p) ← quotedFrom quote steps p
      return (taken ++ others, p)
    match p.rest with
    | [] => .error .unreadable
    | c :: rest =>
      if c = quote then
        if !double && rest.head? = some quote then continued [quote] (p.skip 2)
        else .ok ([], p.next)
      else if double && c = '\\' then
        match rest with
        | [] => .error .unreadable
        | e :: _ =>
          if isBreak e then do
            let (taken, p) ← quotedBreaks p.rest.length (p.next.takeBreak).2
            continued taken p
          else match escapes.lookup e, codeLengths.lookup e with
            | some c, _ => continued [c] (p.skip 2)
            | none, some n => do
              let digits := (p.skip 2).rest.take n
              if digits.length < n then .error .unreadable
              continued [← codePoint digits] (p.skip (2 + n))
            | none, none => .error .unreadable
      else if isBlank c then
        let (blanks, p) := p.skipWhile fun c => c = ' ' || c = '\t'
        if p.atBreak then do
          let (first, p) := p.takeBreak
          let (others, p) ← quotedBreaks (p.rest.length + 1) p
          continued (folded first others) p
        else if p.rest.isEmpty then .error .unreadable
        else continued blanks p
      else
        continued [c] p.next

def quoted (p : Cursor) : Reading (List Char × Cursor) :=
  match p.rest with
  | quote :: _ => quotedFrom quote (p.rest.length + 1) p.next
  | [] => .error .unreadable

/-! ## Plain scalars -/

/-- Whether a plain scalar ends before a place. In brackets some more characters end it. -/
def plainEnds (inBrackets : Bool) (cs : List Char) : Bool :=
  match cs with
  | [] => true
  | c :: rest =>
    let special := ",[]\x7b\x7d".toList
    isBlank c
      || (c = ':' && rest.head?.all fun d => isBlank d || (inBrackets && special.contains d))
      || (inBrackets && (c = '?' || special.contains c))

def plainRun (inBrackets : Bool) : List Char → List Char
  | [] => []
  | c :: rest => if plainEnds inBrackets (c :: rest) then [] else c :: plainRun inBrackets rest

/-- The spaces or folded breaks after a part of a plain scalar. Breaks make room for a key. -/
structure Gap where
  chars : List Char
  cursor : Cursor
  broken : Bool

/-- Pass spaces and breaks; a document mark after a break ends the scalar. -/
def plainBreaks (steps : Nat) (p : Cursor) : Option (List Char) × Cursor :=
  match steps with
  | 0 => (some [], p)
  | steps + 1 =>
    match p.peek? with
    | some c =>
      if c = ' ' then plainBreaks steps p.next
      else if isBreak c then
        let (taken, p) := p.takeBreak
        if p.atDocumentMark then (none, p)
        else
          let (others, p) := plainBreaks steps p
          (others.map (taken ++ ·), p)
      else (some [], p)
    | none => (some [], p)

def plainGap (p : Cursor) : Gap :=
  let (spaces, p) := p.skipWhile (· = ' ')
  if p.atBreak then
    let (first, p) := p.takeBreak
    if p.atDocumentMark then ⟨[], p, true⟩
    else match plainBreaks p.rest.length p with
      | (some others, p) => ⟨folded first others, p, true⟩
      | (none, p) => ⟨[], p, true⟩
  else ⟨spaces, p, false⟩

structure Plain where
  chars : List Char
  cursor : Cursor
  keyAllowed : Bool

/-- Continue a plain scalar after a gap. Outside of brackets its lines are indented. -/
def plainFrom (inBrackets : Bool) (indent : Int) (steps : Nat) (gap : Gap) (keyAllowed : Bool) :
    Plain :=
  match steps with
  | 0 => ⟨[], gap.cursor, keyAllowed⟩
  | steps + 1 =>
    let p := gap.cursor
    if p.peek? = some '#' then ⟨[], p, keyAllowed⟩
    else
      let run := plainRun inBrackets p.rest
      if run.isEmpty then ⟨[], p, keyAllowed⟩
      else
        let after := plainGap (p.skip run.length)
        let text := gap.chars ++ run
        if after.chars.isEmpty || after.cursor.peek? = some '#'
            || (!inBrackets && (after.cursor.column : Int) < indent) then
          ⟨text, after.cursor, after.broken⟩
        else
          let tail := plainFrom inBrackets indent steps after after.broken
          ⟨text ++ tail.chars, tail.cursor, tail.keyAllowed⟩

def plain (inBrackets : Bool) (indent : Int) (p : Cursor) : Plain :=
  plainFrom inBrackets indent p.rest.length ⟨[], p, false⟩ false

end LaneRoute.Yaml
