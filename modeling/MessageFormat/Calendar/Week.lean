import MessageFormat.Calendar.Basic
import MessageFormat.Fault

/-!
Numbers of weeks. A locale says on which day weeks start and how many days of a period its first week has at
least.
-/

set_option autoImplicit false

namespace MessageFormat

structure WeekRules where
  firstDay : Nat := 0
  minDays : Nat := 1
deriving DecidableEq, Repr

namespace WeekRules

/-- The day's place in its week. -/
def placeOf (r : WeekRules) (weekday : Nat) : Nat := (weekday + 7 - r.firstDay) % 7

/-- The number of the week that holds a day of a period; the last week of the period before is number
zero. -/
def weekOf (r : WeekRules) (day weekday : Nat) : Nat :=
  let first := (((r.placeOf weekday : Int) - day + 1).emod 7).toNat
  (day + first - 1) / 7 + (if r.minDays ≤ 7 - first then 1 else 0)

def weekOfMonth (r : WeekRules) (d : Date) : Nat := r.weekOf d.day d.weekday

/-- The date, if its year has one. -/
def dateIn (year : Nat) (month day : Nat) : Except Fault Date :=
  if year = 0 ∨ 9999 < year then .error (.value s!"year {year} is out of range")
  else .ok ⟨year, month, day⟩

/-- Days before the first week belong to the last week of the year before; the last days of a year may belong
to the first week of the next one. -/
def weekOfYear (r : WeekRules) (d : Date) : Except Fault Nat := do
  let week := r.weekOf d.dayOfYear d.weekday
  if week = 0 then
    let last ← dateIn (d.year - 1) 12 31
    return r.weekOf last.dayOfYear last.weekday
  else if 52 < week then
    let next ← dateIn (d.year + 1) 1 1
    let moves := r.weekOf 1 next.weekday == 1 && decide (32 ≤ d.day + r.placeOf next.weekday)
    return if moves then 1 else week
  else return week

/-- The year that the day's week belongs to. -/
def weekYear (r : WeekRules) (d : Date) : Except Fault Nat := do
  if d.month = 1 ∧ d.day < 7 then
    let week ← r.weekOfYear d
    return if 52 ≤ week then d.year - 1 else d.year
  else if d.month = 12 ∧ 25 < d.day then
    let week ← r.weekOfYear d
    return if week ≤ 2 then d.year + 1 else d.year
  else return d.year

end WeekRules
end MessageFormat
