import RouteAtlas.Value.Text

/-! Days of the calendar and times of day, and what makes numbers in their form none. -/

namespace RouteAtlas

/-- Why numbers in the form of a date and a time of day are none. -/
inductive MomentFault where
  | year (n : Nat)
  | month
  | day
  | hour
  | minute
  | second
  /-- An offset of so many millionths of a second is a day or more. -/
  | offset (micros : Int)
deriving DecidableEq, Repr, Inhabited

def MomentFault.message : MomentFault → String
  | .year n => "year " ++ toString n ++ " is out of range"
  | .month => "month must be in 1..12"
  | .day => "day is out of range for month"
  | .hour => "hour must be in 0..23"
  | .minute => "minute must be in 0..59"
  | .second => "second must be in 0..59"
  | .offset n =>
    "offset must be a timedelta strictly between -timedelta(hours=24) and " ++
      "timedelta(hours=24), not " ++
      spanLiteral n ++ "."

def isLeapYear (y : Nat) : Bool := y % 4 = 0 && (y % 100 ≠ 0 || y % 400 = 0)

def daysInMonth (y m : Nat) : Nat :=
  if m = 2 then if isLeapYear y then 29 else 28
  else if m = 4 || m = 6 || m = 9 || m = 11 then 30 else 31

namespace Date

/-- The day of a year, a month and a day of the month. -/
def make (y m d : Nat) : Except MomentFault Date :=
  if y = 0 || 9999 < y then .error (.year y)
  else if m = 0 || 12 < m then .error .month
  else if d = 0 || daysInMonth y m < d then .error .day
  else .ok ⟨y, m, d⟩

/-- The month and the day of the month of a day of the year, where the months from `m` on remain and
`n` bounds how many these are. -/
def inMonths (y : Nat) : Nat → Nat → Nat → Date
  | 0, m, day => ⟨y, m, day⟩
  | n + 1, m, day =>
    if day ≤ daysInMonth y m then ⟨y, m, day⟩ else inMonths y n (m + 1) (day - daysInMonth y m)

/-- The day with a number; before the first day there is no month. -/
def ofNumber (n : Int) : Date :=
  if n ≤ 0 then ⟨1, 0, 0⟩
  else
    let guess := n.toNat / 366 + 1
    let year := (List.range 30).foldl (fun y _ =>
      if (Date.mk (y + 1) 1 1).number ≤ n then y + 1 else y) guess
    inMonths year 11 1 (n - (Date.mk year 1 1).number + 1).toNat

/-- The day of the week, from Monday as zero. -/
def weekday (d : Date) : Nat := ((d.number + 6) % 7).toNat

/-- The number of weeks that begin in the year by the count in which a week belongs to the year of
its Thursday. -/
def weeksInYear (y : Nat) : Nat :=
  let first := (Date.mk y 1 1).weekday
  if first = 3 || (first = 2 && isLeapYear y) then 53 else 52

/-- The number of the Monday on which the first week of a year begins. -/
def firstMonday (y : Nat) : Int :=
  let d := Date.mk y 1 1
  d.number - d.weekday + (if 3 < d.weekday then 7 else 0)

/-- The day of a week of a year, where Monday is one. -/
def ofWeek? (y week day : Nat) : Option Date :=
  if week = 0 || weeksInYear y < week || day = 0 || 7 < day then none
  else if y = 0 then some (ofNumber 0)
  else some (ofNumber (firstMonday y + (week - 1) * 7 + (day - 1)))

/-- Refuses what is no day of the calendar. -/
def checked (d : Date) : Except MomentFault Date := make d.year d.month d.day

end Date

namespace Moment

/-- A moment of numbers in its form. The offset comes first in being refused. -/
def make (date : Date) (hour minute second micro : Nat) (offset : Option Int) :
    Except MomentFault Moment := do
  if let some o := offset then
    if 86400000000 ≤ o.natAbs then throw (.offset o)
  let date ← date.checked
  if 23 < hour then throw .hour
  else if 59 < minute then throw .minute
  else if 59 < second then throw .second
  else return ⟨date, hour, minute, second, micro, offset⟩

end Moment

end RouteAtlas
