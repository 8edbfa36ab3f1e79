import LaneRoute.Number.Literal
import LaneRoute.Yaml.Timestamp

/-!
# Plain scalars

Which value a scalar without quotes stands for: nothing, a mark, an integer, a real number, a
date or a moment, or else its own text.
-/

set_option autoImplicit false

namespace LaneRoute.Yaml.Scalar

def nulls : List String := ["", "~", "null", "Null", "NULL"]

def marks : List (String × Bool) :=
  [("yes", true), ("Yes", true), ("YES", true), ("no", false), ("No", false), ("NO", false),
   ("true", true), ("True", true), ("TRUE", true), ("false", false), ("False", false),
   ("FALSE", false), ("on", true), ("On", true), ("ON", true), ("off", false), ("Off", false),
   ("OFF", false)]

def isDecimal (c : Char) : Bool := '0' ≤ c && c ≤ '9'

def isOctal (c : Char) : Bool := '0' ≤ c && c ≤ '7'

def isBinary (c : Char) : Bool := c = '0' || c = '1'

def isHexadecimal (c : Char) : Bool :=
  isDecimal c || ('a' ≤ c && c ≤ 'f') || ('A' ≤ c && c ≤ 'F')

def isRun (is : Char → Bool) (cs : List Char) : Bool :=
  !cs.isEmpty && cs.all fun c => is c || c = '_'

def digitValue (c : Char) : Nat :=
  if isDecimal c then c.toNat - '0'.toNat
  else if 'a' ≤ c then c.toNat - 'a'.toNat + 10 else c.toNat - 'A'.toNat + 10

/-- The number that digits make, if there are any among the underscores. Only so many digits
are taken in a base that is no power of two. -/
def inBase (base : Nat) (cs : List Char) : Reading Nat :=
  let digits := cs.filter (· ≠ '_')
  if digits.isEmpty || (base = 10 && Literal.maxDigits < digits.length) then .error .badValue
  else .ok (digits.foldl (fun n c => base * n + digitValue c) 0)

def parts (cs : List Char) : List (List Char) :=
  match cs with
  | [] => [[]]
  | ':' :: rest => [] :: parts rest
  | c :: rest =>
    match parts rest with
    | first :: others => (c :: first) :: others
    | [] => [[c]]

def isSixtieth (cs : List Char) : Bool :=
  match cs with
  | [a] => isDecimal a
  | [a, b] => '0' ≤ a && a ≤ '5' && isDecimal b
  | _ => false

def isSexagesimal (leading : Char → Bool) (ps : List (List Char)) : Bool :=
  match ps with
  | (c :: first) :: p :: rest =>
    leading c && first.all (fun c => isDecimal c || c = '_') && (p :: rest).all isSixtieth
  | _ => false

def isNonzero (c : Char) : Bool := '1' ≤ c && c ≤ '9'

def sexagesimal (ps : List (List Char)) : Reading Nat :=
  ps.foldlM (fun n p => do return 60 * n + (← inBase 10 p)) 0

def natural? (cs : List Char) : Option (Reading Nat) :=
  match cs with
  | '0' :: 'b' :: digits => if isRun isBinary digits then some (inBase 2 digits) else none
  | '0' :: 'x' :: digits => if isRun isHexadecimal digits then some (inBase 16 digits) else none
  | ['0'] => some (.ok 0)
  | '0' :: digits => if isRun isOctal digits then some (inBase 8 cs) else none
  | c :: digits =>
    if isNonzero c && digits.all (fun c => isDecimal c || c = '_') then some (inBase 10 cs)
    else if isSexagesimal isNonzero (parts cs) then some (sexagesimal (parts cs))
    else none
  | [] => none

def integer? (cs : List Char) : Option (Reading Int) :=
  let (negative, digits) := Literal.sign cs
  (natural? digits).map fun n => n.map (Literal.signed negative)

/-- An exponent needs its sign. -/
def isExponent (cs : List Char) : Bool :=
  match cs with
  | '+' :: c :: digits => (c :: digits).all isDecimal
  | '-' :: c :: digits => (c :: digits).all isDecimal
  | _ => false

def isFraction (cs : List Char) : Bool :=
  let (digits, exponent) := Literal.cut (fun c => c = 'e' || c = 'E') cs
  digits.all (fun c => isDecimal c || c = '_') && exponent.all isExponent

def startsWithDigit (cs : List Char) : Bool := cs.head?.any isDecimal

def isDecimalReal (cs : List Char) : Bool :=
  match Literal.cut (· = '.') cs with
  | (whole, some fraction) =>
    startsWithDigit whole && isRun isDecimal whole && isFraction fraction
  | _ => false

/-- Without digits before the point there is no sign and a digit must follow. -/
def isBareFraction (cs : List Char) : Bool :=
  match cs with
  | '.' :: fraction => startsWithDigit fraction && isFraction fraction
  | _ => false

def sixtieths (ps : List (List Char)) : Option Float := do
  let values ← ps.reverse.mapM fun p => Literal.magnitude? (p.filter (· ≠ '_'))
  return (values.foldl (fun (sum, unit) x => (sum + x * unit, unit * 60)) (0, 1)).1

def sexagesimalReal? (cs : List Char) : Option Float :=
  match Literal.cut (· = '.') cs with
  | (whole, some fraction) =>
    if isSexagesimal isDecimal (parts whole)
        && fraction.all (fun c => isDecimal c || c = '_') then
      let last := (parts whole).getLast?.getD [] ++ '.' :: fraction.filter (· ≠ '_')
      sixtieths ((parts whole).dropLast ++ [last])
    else none
  | _ => none

def infinities : List String := [".inf", ".Inf", ".INF"]

def notNumbers : List String := [".nan", ".NaN", ".NAN"]

def real? (cs : List Char) : Option Float :=
  let (negative, size) := Literal.sign cs
  let signed (x : Float) := if negative then -x else x
  if isDecimalReal size then (Literal.magnitude? (size.filter (· ≠ '_'))).map signed
  else if isBareFraction cs then Literal.magnitude? (cs.filter (· ≠ '_'))
  else if infinities.contains (String.ofList size) then some (signed (1 / 0))
  else if notNumbers.contains (String.ofList cs) then some (0 / 0)
  else (sexagesimalReal? size).map signed

/-- Texts that say something about a mapping when they are keys and are no values. -/
def reserved : List String := ["<<", "="]

def value (text : String) : Reading Document :=
  if nulls.contains text then .ok .null
  else if reserved.contains text then .error .unreadable
  else match marks.lookup text with
    | some b => .ok (.bool b)
    | none =>
      match integer? text.toList with
      | some i => i.map .int
      | none =>
        match real? text.toList with
        | some x => .ok (.real x)
        | none => (Timestamp.value? text.toList).getD (.ok (.text text))

end LaneRoute.Yaml.Scalar
