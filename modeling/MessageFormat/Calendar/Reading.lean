import MessageFormat.Calendar.Basic
import MessageFormat.Text.Blank

/-!
Reading dates, times and moments in ISO 8601 form: with or without hyphens and colons, by month or by week,
any one character between date and time, any number of places of a second.
-/

set_option autoImplicit false

namespace MessageFormat

open Text

/-- ASCII digits only. -/
def isoDigit? (c : Char) : Option Nat := if c.isDigit then some (c.toNat - 48) else none

/-- A number of exactly this many digits, and what follows. -/
def isoNumber? : Nat → List Char → Option (Nat × List Char)
  | 0, s => some (0, s)
  | _ + 1, [] => none
  | n + 1, c :: r => do
    let d ← isoDigit? c
    let (low, rest) ← isoNumber? n r
    return (d * Nat.pow 10 n + low, rest)

/-- The character, if it is asked for, and what follows. -/
def isoMark? (asked : Bool) (mark : Char) (s : List Char) : Option (List Char) :=
  if asked then strip? [mark] s else some s

namespace Date

/-- The number of the Monday of week 1. -/
def firstMonday (year : Nat) : Int :=
  let first := daysBeforeYear year + 1
  let weekday := (first + 6) % 7
  if weekday ≤ 3 then first - weekday else first + 7 - weekday

def hasWeek53 (year : Nat) : Bool :=
  let weekday := (daysBeforeYear year + 7) % 7
  weekday == 3 || (weekday == 2 && isLeap year)

/-- A day of a week, Monday being 1. -/
def ofWeek? (year week day : Nat) : Option Date :=
  if year < 1 ∨ week < 1 ∨ 53 < week ∨ day < 1 ∨ 7 < day then none
  else if week = 53 ∧ !hasWeek53 year then none
  else
    let n := firstMonday year + ((week - 1) * 7 + day - 1 : Nat)
    if n < 1 then none else some (ofOrdinal n.toNat)

/-- A whole text: year, then month and day, or a week and perhaps a day of it. -/
def readParts? (s : List Char) : Option Date := do
  let (year, r) ← isoNumber? 4 s
  let separated := startsWith r ['-']
  let r := if separated then r.drop 1 else r
  match r with
  | 'W' :: r =>
    let (week, r) ← isoNumber? 2 r
    if r.isEmpty then ofWeek? year week 1
    else
      let r ← isoMark? separated '-' r
      let (day, _) ← isoNumber? 1 r
      ofWeek? year week day
  | r =>
    let (month, r) ← isoNumber? 2 r
    let r ← isoMark? separated '-' r
    let (day, r) ← isoNumber? 2 r
    if r.isEmpty then some ⟨year, month, day⟩ else none

def read? (s : List Char) : Option Date :=
  if s.length = 7 ∨ s.length = 8 ∨ s.length = 10 then (readParts? s).filter isValid else none

end Date

namespace TimeOfDay

/-- Hours, minutes and seconds as read, microseconds, and what could not be read. -/
structure Clock where
  numbers : List Nat
  micro : Nat
  rest : List Char

/-- The places of a second: six count, more are passed over. -/
def readPlaces? (numbers : List Nat) (s : List Char) : Option Clock := do
  let count := min 6 s.length
  let (n, r) ← isoNumber? count s
  return ⟨numbers, n * Nat.pow 10 (6 - count), r.dropWhile Char.isDigit⟩

/-- Up to three numbers with or without colons between them, then places after a mark, or directly
after the third number. -/
def readClock? (colons : Option Bool) : Nat → List Nat → List Char → Option Clock
  | 0, numbers, s => readPlaces? numbers s
  | left + 1, numbers, s => do
    let (n, r) ← isoNumber? 2 s
    let numbers := numbers ++ [n]
    match r with
    | [] => return ⟨numbers, 0, []⟩
    | [c] => return ⟨numbers, 0, [c]⟩
    | c :: r =>
      let colons := colons.getD (c == ':')
      if colons && c == ':' then readClock? (some true) left numbers r
      else if c == '.' || c == ',' then readPlaces? numbers r
      else if colons then none
      else readClock? (some false) left numbers (c :: r)

def isZoneMark (c : Char) : Bool := c == '+' || c == '-' || c == 'Z'

/-- Where the offset starts: the first character may be anything but a mark, and so may the others. -/
def splitZone (s : List Char) : List Char × List Char := s.span fun c => !isZoneMark c

def secondsOf (numbers : List Nat) : Nat :=
  numbers.getD 0 0 * 3600 + numbers.getD 1 0 * 60 + numbers.getD 2 0

/-- An offset of zero whole seconds is universal time, and offsets stay below a day. -/
def readOffset? (s : List Char) : Option (Option Int) :=
  match s with
  | [] => some none
  | ['Z'] => some (some 0)
  | 'Z' :: _ => none
  | sign :: r => do
    let clock ← readClock? none 3 [] r
    if !clock.rest.isEmpty then none
    else
      let seconds := secondsOf clock.numbers
      if seconds = 0 then return some 0
      else
        let n := seconds * microsPerSecond + clock.micro
        if microsPerDay ≤ n then none
        else return some (if sign = '-' then -(n : Int) else n)

/-- A clock and perhaps an offset. What the clock leaves before an offset is passed over. -/
def readParts? (s : List Char) : Option TimeOfDay := do
  let (clockText, zone) := splitZone s
  let clock ← readClock? none 3 [] clockText
  if !clock.rest.isEmpty && zone.isEmpty then none
  else
    let offset ← readOffset? zone
    return ⟨clock.numbers.getD 0 0, clock.numbers.getD 1 0, clock.numbers.getD 2 0, clock.micro, offset⟩

def read? (s : List Char) : Option TimeOfDay :=
  (readParts? ((strip? ['T'] s).getD s)).filter isValid

end TimeOfDay

namespace Moment

/-- How many characters the date takes, by the form that its fifth and later characters show. -/
def dateLength? (s : List Char) : Option Nat :=
  let n := s.length
  let at? (i : Nat) : Option Char := s[i]?
  let digitAt (i : Nat) : Bool := ((at? i).map Char.isDigit).getD false
  if n < 7 then none
  else if n = 7 then some 7
  else if at? 4 = some '-' then
    if at? 5 = some 'W' then
      if at? 8 = some '-' then
        if n = 9 then none else if digitAt 10 then some 8 else some 10
      else some 8
    else some 10
  else if at? 4 = some 'W' then
    let stop := 7 + ((s.drop 7).takeWhile Char.isDigit).length
    if stop < 9 then some stop else if stop % 2 = 0 then some 7 else some 8
  else some 8

def read? (s : List Char) : Option Moment := do
  let length ← dateLength? s
  let date ← Date.readParts? (s.take length)
  let time ← if s.length ≤ length then some {} else TimeOfDay.readParts? (s.drop (length + 1))
  if date.isValid && time.isValid then some ⟨date, time⟩ else none

end Moment
end MessageFormat
