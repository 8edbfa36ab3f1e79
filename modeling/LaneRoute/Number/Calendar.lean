import LaneRoute.Number.Decimal
import LaneRoute.Number.Total

/-!
# Dates and moments

Days of the calendar that has a leap day every fourth year, save in centuries that four does
not divide, and moments of such days, with or without a distance from universal time.
-/

set_option autoImplicit false

namespace LaneRoute

structure Date where
  year : Nat
  month : Nat
  day : Nat
deriving DecidableEq

namespace Date

def isLeapYear (year : Nat) : Bool := year % 4 = 0 && (year % 100 ≠ 0 || year % 400 = 0)

def daysIn (year month : Nat) : Nat :=
  if month = 2 then if isLeapYear year then 29 else 28
  else if month ∈ [4, 6, 9, 11] then 30 else 31

/-- The years have four digits and start with the first. -/
def isValid (d : Date) : Bool :=
  1 ≤ d.year && d.year ≤ 9999 && 1 ≤ d.month && d.month ≤ 12
    && 1 ≤ d.day && d.day ≤ daysIn d.year d.month

def leapDaysBefore (year : Nat) : Nat :=
  let y := year - 1
  y / 4 - y / 100 + y / 400

def ordinal (d : Date) : Nat :=
  let months := (List.range (d.month - 1)).map fun m => daysIn d.year (m + 1)
  (d.year - 1) * 365 + leapDaysBefore d.year + total months + d.day

def text (d : Date) : String :=
  Decimal.padded 4 d.year ++ "-" ++ Decimal.padded 2 d.month ++ "-" ++ Decimal.padded 2 d.day

def parts (d : Date) : List Nat := [d.year, d.month, d.day]

def display (d : Date) : String :=
  "datetime.date(" ++ ", ".intercalate (d.parts.map Decimal.digits) ++ ")"

end Date

/-- A moment of a day; the offset is how many seconds its clock is ahead of universal time. -/
structure Moment where
  date : Date
  hour : Nat
  minute : Nat
  second : Nat
  microsecond : Nat
  offset : Option Int
deriving DecidableEq

namespace Moment

def secondsPerDay : Nat := 86400

def isValid (m : Moment) : Bool :=
  m.date.isValid && m.hour < 24 && m.minute < 60 && m.second < 60
    && m.offset.all fun o => o.natAbs < secondsPerDay

def clock (m : Moment) : Nat :=
  (((m.date.ordinal * 24 + m.hour) * 60 + m.minute) * 60 + m.second) * 1000000 + m.microsecond

/-- Moments are the same when they are of universal time, and otherwise when their clocks are;
one with an offset is never one without. -/
def isSame (m n : Moment) : Bool :=
  match m.offset, n.offset with
  | none, none => m.clock = n.clock
  | some o, some p => (m.clock : Int) - o * 1000000 = n.clock - p * 1000000
  | _, _ => false

def offsetText (o : Int) : String :=
  let minutes := o.natAbs / 60
  (if o < 0 then "-" else "+") ++ Decimal.padded 2 (minutes / 60) ++ ":"
    ++ Decimal.padded 2 (minutes % 60)

def text (m : Moment) : String :=
  m.date.text ++ " " ++ Decimal.padded 2 m.hour ++ ":" ++ Decimal.padded 2 m.minute ++ ":"
    ++ Decimal.padded 2 m.second
    ++ (if m.microsecond = 0 then "" else "." ++ Decimal.padded 6 m.microsecond)
    ++ (m.offset.map offsetText).getD ""

def offsetDisplay (o : Int) : String :=
  if o = 0 then "datetime.timezone.utc"
  else
    let days := o / secondsPerDay
    let seconds := o % secondsPerDay
    "datetime.timezone(datetime.timedelta("
      ++ (if days = 0 then "" else "days=" ++ Decimal.integer days ++ ", ")
      ++ "seconds=" ++ Decimal.integer seconds ++ "))"

def display (m : Moment) : String :=
  let fine := if m.microsecond ≠ 0 then [m.second, m.microsecond]
    else if m.second ≠ 0 then [m.second] else []
  let parts := m.date.parts ++ [m.hour, m.minute] ++ fine
  "datetime.datetime(" ++ ", ".intercalate (parts.map Decimal.digits)
    ++ (m.offset.map fun o => ", tzinfo=" ++ offsetDisplay o).getD "" ++ ")"

end Moment

end LaneRoute
