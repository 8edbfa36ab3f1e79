import LaneRoute.Text.Digit

/-!
# Numerals

Reading a number from a text: blanks around it, a sign, digits of any script with single
underscores between them, and for reals a point, an exponent and the words for the values
that are not finite.
-/

set_option autoImplicit false

namespace LaneRoute.Literal

/-- Digits, each but the first with at most one underscore before it. -/
def digitRun? : List Char → Option (List Nat)
  | [] => none
  | [c] => (Text.digit? c).map ([·])
  | c :: '_' :: rest => do return (← Text.digit? c) :: (← digitRun? rest)
  | c :: rest => do return (← Text.digit? c) :: (← digitRun? rest)

def natural (digits : List Nat) : Nat := digits.foldl (fun n d => 10 * n + d) 0

def sign : List Char → Bool × List Char
  | '-' :: rest => (true, rest)
  | '+' :: rest => (false, rest)
  | cs => (false, cs)

def signed (negative : Bool) (n : Nat) : Int := if negative then -(n : Int) else n

/-- An integer of at most so many digits; any number of them without a limit. -/
def integerOf? (limit : Option Nat) (cs : List Char) : Option Int := do
  let (negative, cs) := sign cs
  let digits ← digitRun? cs
  if limit.any (· < digits.length) then none
  return signed negative (natural digits)

def maxDigits : Nat := 4300

def integer? (s : String) : Option Int := integerOf? (some maxDigits) (Text.trimmed s.toList)

def cut (isSeparator : Char → Bool) : List Char → List Char × Option (List Char)
  | [] => ([], none)
  | c :: rest =>
    if isSeparator c then ([], some rest)
    else let (before, after) := cut isSeparator rest; (c :: before, after)

/-- The double nearest to digits times a power of ten. Beyond a few hundred places the
result no longer depends on the exponent. -/
def scaled (digits : List Nat) (exponent : Int) : Float :=
  let n := natural digits
  let reach : Int := digits.length + 400
  if n = 0 then 0
  else if reach < exponent then 1 / 0
  else if exponent < -reach then 0
  else Float.ofScientific n (exponent < 0) exponent.natAbs

def optionalRun? (cs : List Char) : Option (List Nat) :=
  if cs.isEmpty then some [] else digitRun? cs

def magnitude? (cs : List Char) : Option Float := do
  let (mantissa, exponent) := cut (fun c => c = 'e' || c = 'E') cs
  let (whole, fraction) := cut (· = '.') mantissa
  let whole ← optionalRun? whole
  let fraction ← optionalRun? (fraction.getD [])
  if whole.isEmpty && fraction.isEmpty then none
  let exponent ← match exponent with
    | none => some 0
    | some cs => integerOf? none cs
  return scaled (whole ++ fraction) (exponent - fraction.length)

def real? (s : String) : Option Float := do
  let (negative, cs) := sign (Text.trimmed s.toList)
  let word := String.ofList (cs.map Char.toLower)
  let size ←
    if word = "inf" ∨ word = "infinity" then some (1 / 0)
    else if word = "nan" then some (0 / 0)
    else magnitude? cs
  return if negative then -size else size

end LaneRoute.Literal
