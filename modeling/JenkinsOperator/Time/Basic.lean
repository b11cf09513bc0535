/-!
# Calendar time in UTC

A `Time` is a moment of the proleptic Gregorian calendar to the nanosecond. It is kept as the
calendar fields that a reader sees, and the type holds only dates and clock readings that exist.
The second of a minute may be 60: such a moment lies within a leap second and stays distinct from
the moments around it.

Years run from -262143 to 262142.
-/

namespace JenkinsOperator

/-- Whether a year has a twenty-ninth of February. -/
def leapYear (year : Int) : Bool :=
  decide (year % 4 = 0 ∧ year % 100 ≠ 0 ∨ year % 400 = 0)

/-- The number of days of a month. -/
def daysInMonth (year : Int) (month : Nat) : Nat :=
  if month = 2 then (if leapYear year then 29 else 28)
  else if month = 4 ∨ month = 6 ∨ month = 9 ∨ month = 11 then 30
  else 31

/-- The days of a year before a month. -/
def daysBeforeMonth (year : Int) : Nat → Nat
  | 0 => 0
  | 1 => 0
  | month + 2 => daysBeforeMonth year (month + 1) + daysInMonth year (month + 1)

/-- A date of the calendar. -/
structure Date where
  year : Int
  month : Nat
  day : Nat
  year_ge : -262143 ≤ year
  year_le : year ≤ 262142
  month_pos : 1 ≤ month
  month_le : month ≤ 12
  day_pos : 1 ≤ day
  day_le : day ≤ daysInMonth year month
  deriving DecidableEq

namespace Date

/-- The date of three numbers, if there is one. -/
def of? (year : Int) (month day : Nat) : Option Date :=
  if h : (-262143 ≤ year ∧ year ≤ 262142) ∧ (1 ≤ month ∧ month ≤ 12)
      ∧ 1 ≤ day ∧ day ≤ daysInMonth year month then
    some ⟨year, month, day, h.1.1, h.1.2, h.2.1.1, h.2.1.2, h.2.2.1, h.2.2.2⟩
  else none

/-- The day after, unless it is beyond the calendar. -/
def next? (d : Date) : Option Date :=
  match of? d.year d.month (d.day + 1) with
  | some next => some next
  | none =>
    match of? d.year (d.month + 1) 1 with
    | some next => some next
    | none => of? (d.year + 1) 1 1

/-- The day before, unless it is beyond the calendar. -/
def previous? (d : Date) : Option Date :=
  if 1 < d.day then of? d.year d.month (d.day - 1)
  else if 1 < d.month then of? d.year (d.month - 1) (daysInMonth d.year (d.month - 1))
  else of? (d.year - 1) 12 31

/-- The number of days from the first of January of year 1, counted as 1. -/
def dayNumber (d : Date) : Int :=
  let before := d.year - 1
  365 * before + before / 4 - before / 100 + before / 400
    + daysBeforeMonth d.year d.month + d.day

end Date

/-- A moment in UTC. -/
structure Time where
  date : Date
  hour : Nat
  minute : Nat
  second : Nat
  nano : Nat
  hour_lt : hour < 24
  minute_lt : minute < 60
  second_le : second ≤ 60
  nano_lt : nano < 1000000000
  deriving DecidableEq

namespace Time

/-- The moment of a date and a clock reading, if the clock can show it. -/
def of? (date : Date) (hour minute second nano : Nat) : Option Time :=
  if h : hour < 24 ∧ minute < 60 ∧ second ≤ 60 ∧ nano < 1000000000 then
    some ⟨date, hour, minute, second, nano, h.1, h.2.1, h.2.2.1, h.2.2.2⟩
  else none

/-- Whether the moment lies within a leap second. -/
def isLeap (t : Time) : Bool := t.second == 60

/-- The second of the day, a leap second counting as the second before it. -/
def secondOfDay (t : Time) : Nat := t.hour * 3600 + t.minute * 60 + min t.second 59

/-- The nanoseconds since `secondOfDay` began. -/
def sinceSecond (t : Time) : Nat := t.nano + if t.isLeap then 1000000000 else 0

/-- The moment in UTC of a clock reading made at an offset, in minutes, ahead of UTC. -/
def ofLocal? (date : Date) (hour minute second nano : Nat) (offset : Int) : Option Time :=
  let minutes : Int := hour * 60 + minute - offset
  let day? :=
    if minutes < 0 then date.previous? else if 1440 ≤ minutes then date.next? else some date
  let minuteOfDay := (minutes % 1440).toNat
  day?.bind fun day => of? day (minuteOfDay / 60) (minuteOfDay % 60) second nano

end Time

end JenkinsOperator
