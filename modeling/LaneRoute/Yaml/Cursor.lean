/-!
# Places in a text

What is left of a text and where it stands: its line, its column and its distance from the
start.
-/

set_option autoImplicit false

namespace LaneRoute.Yaml

structure Cursor where
  rest : List Char
  line : Nat
  column : Nat
  offset : Nat

def isBreak (c : Char) : Bool := c = '\n' || c = '\x85' || c = '\u2028' || c = '\u2029'

def isBlank (c : Char) : Bool := c = ' ' || c = '\t' || isBreak c

namespace Cursor

def start (text : List Char) : Cursor :=
  match text with
  | '\uFEFF' :: rest => ⟨rest, 0, 0, 1⟩
  | text => ⟨text, 0, 0, 0⟩

/-- Pass one character. A byte order mark takes no column. -/
def next (p : Cursor) : Cursor :=
  match p.rest with
  | [] => p
  | c :: rest =>
    if isBreak c then ⟨rest, p.line + 1, 0, p.offset + 1⟩
    else ⟨rest, p.line, if c = '\uFEFF' then p.column else p.column + 1, p.offset + 1⟩

def skip (p : Cursor) : Nat → Cursor
  | 0 => p
  | n + 1 => p.next.skip n

def peek? (p : Cursor) : Option Char := p.rest.head?

def blankAt (p : Cursor) (n : Nat) : Bool := (p.rest[n]?).all isBlank

def atBreak (p : Cursor) : Bool := p.peek?.any isBreak

def skipWhile (p : Cursor) (is : Char → Bool) : List Char × Cursor :=
  let taken := p.rest.takeWhile is
  (taken, p.skip taken.length)

/-- The break that stands here; the common ones count as one and the same. -/
def takeBreak (p : Cursor) : List Char × Cursor :=
  match p.rest with
  | c :: _ => if c = '\n' || c = '\x85' then (['\n'], p.next) else ([c], p.next)
  | [] => ([], p)

def marker (p : Cursor) (c : Char) : Bool := p.rest.take 3 = [c, c, c] && p.blankAt 3

def atDocumentMark (p : Cursor) : Bool := p.marker '-' || p.marker '.'

end Cursor

/-- What breaks between two parts of a scalar amount to: one of them is a space, and of
several the first is dropped. -/
def folded (first : List Char) (others : List Char) : List Char :=
  if first ≠ ['\n'] then first ++ others
  else if others.isEmpty then [' '] else others

end LaneRoute.Yaml
