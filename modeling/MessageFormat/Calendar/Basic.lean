import MessageFormat.Text.Letter

/-!
Dates of the proleptic Gregorian calendar, times of day, moments and durations, and their numbers of days
and microseconds.
-/

set_option autoImplicit false

namespace MessageFormat

structure Date where
  year : Nat
  month : Nat
  day : Nat
deriving DecidableEq, Repr

/-- The offset from universal time is in microseconds; a time need not have one. -/
structure TimeOfDay where
  hour : Nat := 0
  minute : Nat := 0
  second : Nat := 0
  micro : Nat := 0
  offset : Option Int := none
deriving DecidableEq, Repr

structure Moment where
  date : Date
  time : TimeOfDay
deriving DecidableEq, Repr

/-- A signed number of microseconds. -/
structure Duration where
  micros : Int
deriving DecidableEq, Repr

namespace Date

def isLeap (year : Nat) : Bool := year % 4 == 0 && (year % 100 != 0 || year % 400 == 0)

def daysInMonth (year month : Nat) : Nat :=
  match month with
  | 2 => if isLeap year then 29 else 28
  | 4 | 6 | 9 | 11 => 30
  | _ => 31

/-- Days in the years before this one, from year 1 on. -/
def daysBeforeYear (year : Nat) : Nat :=
  let y := year - 1
  y * 365 + y / 4 - y / 100 + y / 400

def daysBeforeMonth (year month : Nat) : Nat :=
  (List.range (month - 1)).foldl (fun sum m => sum + daysInMonth year (m + 1)) 0

/-- The day's number; January 1 of year 1 is day 1. -/
def ordinal (d : Date) : Nat := daysBeforeYear d.year + daysBeforeMonth d.year d.month + d.day

def dayOfYear (d : Date) : Nat := daysBeforeMonth d.year d.month + d.day

/-- Monday is 0. -/
def weekday (d : Date) : Nat := (d.ordinal + 6) % 7

def isValid (d : Date) : Bool :=
  decide (1 ≤ d.year ∧ d.year ≤ 9999 ∧ 1 ≤ d.month ∧ d.month ≤ 12 ∧ 1 ≤ d.day ∧
    d.day ≤ daysInMonth d.year d.month)

/-- The month that holds a day of the year, counted from `month`, and the day in it. -/
def findMonth (year : Nat) : Nat → Nat → Nat → Nat × Nat
  | 0, month, day => (month, day)
  | left + 1, month, day =>
    if day ≤ daysInMonth year month then (month, day)
    else findMonth year left (month + 1) (day - daysInMonth year month)

/-- The year that holds a day, counted from the first day of year 1. Cycles have 400, 100, 4 and 1 years;
the last century and the last year of a cycle may be a day longer. -/
def yearOf (days : Nat) : Nat :=
  let inCycle := days % 146097
  let century := min (inCycle / 36524) 3
  let inCentury := inCycle - century * 36524
  let inLeapCycle := inCentury % 1461
  400 * (days / 146097) + 100 * century + 4 * (inCentury / 1461) + min (inLeapCycle / 365) 3 + 1

/-- The date with this day's number. -/
def ofOrdinal (n : Nat) : Date :=
  let year := yearOf (n - 1)
  let (month, day) := findMonth year 11 1 (n - daysBeforeYear year)
  ⟨year, month, day⟩

end Date

namespace TimeOfDay

def isValid (t : TimeOfDay) : Bool :=
  decide (t.hour < 24 ∧ t.minute < 60 ∧ t.second < 60 ∧ t.micro < 1000000)

def microsPerSecond : Nat := 1000000

def microsPerDay : Nat := 86400 * microsPerSecond

/-- Microseconds since midnight. -/
def micros (t : TimeOfDay) : Nat :=
  ((t.hour * 60 + t.minute) * 60 + t.second) * microsPerSecond + t.micro

def ofMicros (n : Nat) (offset : Option Int) : TimeOfDay :=
  let seconds := n / microsPerSecond
  ⟨seconds / 3600, seconds / 60 % 60, seconds % 60, n % microsPerSecond, offset⟩

end TimeOfDay

namespace Moment

def isValid (m : Moment) : Bool := m.date.isValid && m.time.isValid

/-- Microseconds since the start of year 1, on the moment's own clock. -/
def localMicros (m : Moment) : Int :=
  ((m.date.ordinal - 1) * TimeOfDay.microsPerDay + m.time.micros : Nat)

/-- Microseconds since the start of year 1 in universal time; a moment without an offset is in it. -/
def utcMicros (m : Moment) : Int := m.localMicros - m.time.offset.getD 0

/-- The moment of years 1 to 9999 at a count of microseconds. -/
def ofMicros (n : Int) (offset : Option Int) : Option Moment :=
  if n < 0 then none
  else
    let days := n.toNat / TimeOfDay.microsPerDay
    if Date.daysBeforeYear 10000 ≤ days then none
    else some ⟨Date.ofOrdinal (days + 1),
      TimeOfDay.ofMicros (n.toNat % TimeOfDay.microsPerDay) offset⟩

end Moment

namespace Duration

def ofParts (days seconds micros : Int) : Duration :=
  ⟨(days * 86400 + seconds) * 1000000 + micros⟩

/-- Whole days, toward the past. -/
def days (d : Duration) : Int := d.micros.fdiv TimeOfDay.microsPerDay

/-- Seconds after the whole days. -/
def seconds (d : Duration) : Nat := (d.micros.fmod TimeOfDay.microsPerDay).toNat / 1000000

/-- Microseconds after the whole seconds. -/
def microseconds (d : Duration) : Nat := (d.micros.fmod 1000000).toNat

end Duration
end MessageFormat
