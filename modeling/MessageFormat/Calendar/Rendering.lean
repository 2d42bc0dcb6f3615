import MessageFormat.Binary64
import MessageFormat.Calendar.Pattern
import MessageFormat.Calendar.Text
import MessageFormat.Calendar.Week

/-!
Rendering moments: each field of a date pattern is written with the names and the week rules of a locale.
-/

set_option autoImplicit false

namespace MessageFormat

open Text

/-- A text of each width. -/
structure Widths (α : Type) where
  wide : α
  abbreviated : α
  narrow : α
deriving DecidableEq, Repr

namespace Widths

variable {α : Type}

def same (a : α) : Widths α := ⟨a, a, a⟩

/-- Four letters are wide, five narrow; fewer are abbreviated. -/
def ofCount (w : Widths α) : Nat → α
  | 4 => w.wide
  | 5 => w.narrow
  | _ => w.abbreviated

end Widths

structure HalfDays where
  am : String
  pm : String
deriving DecidableEq, Repr

/-- Names of zones; a zone without one is known by its place, and an offset follows a letter code. -/
structure ZoneNames where
  universal : String
  offsetCode : String := "GMT"
  placeBefore : String := ""
  placeAfter : String := ""
deriving DecidableEq, Repr

/-- The names that a calendar uses; months, quarters and days are in order, weeks starting on Monday. -/
structure CalendarNames where
  months : Widths (List String)
  monthsAlone : Widths (List String)
  days : Widths (List String)
  daysShort : List String
  daysAlone : Widths (List String)
  quarters : Widths (List String)
  era : Widths String
  halfDays : Widths (Option HalfDays)
  zones : ZoneNames
deriving DecidableEq, Repr

namespace Moment

def padded (n width : Nat) : List Char := padZeros width (natDigits n)

def named (names : List String) (index : Nat) : List Char := (names.getD index "").toList

def monthText (names : Widths (List String)) (m : Moment) (width : Nat) : List Char :=
  if width ≤ 2 then padded m.date.month width else named (names.ofCount width) (m.date.month - 1)

def quarterText (names : CalendarNames) (m : Moment) (width : Nat) : List Char :=
  let quarter := (m.date.month - 1) / 3
  if width ≤ 2 then padded (quarter + 1) width else named (names.quarters.ofCount width) quarter

def weekdayName (names : CalendarNames) (m : Moment) (alone : Bool) (width : Nat) : List Char :=
  let list := if width = 6 then names.daysShort
    else (if alone then names.daysAlone else names.days).ofCount width
  named list m.date.weekday

/-- Below three letters the day's place in the week is written. -/
def localWeekday (names : CalendarNames) (rules : WeekRules) (m : Moment) (alone : Bool)
    (width : Nat) : List Char :=
  if width < 3 then padded (rules.placeOf m.date.weekday + 1) width
  else weekdayName names m alone width

/-- Years of two letters show their last two digits. -/
def yearText (year width : Nat) : List Char :=
  let digits := padded year width
  if width = 2 then digits.drop (digits.length - 2) else digits

/-- The half of the day in the first width that has names: the asked one, wide, narrow, abbreviated. -/
def halfDayText (names : CalendarNames) (m : Moment) (width : Nat) : Except Fault (List Char) :=
  let half := names.halfDays
  let isLate := decide (12 ≤ m.time.hour)
  match half.ofCount width <|> half.wide <|> half.narrow <|> half.abbreviated with
  | some h => .ok (if isLate then h.pm else h.am).toList
  | none => .error (.value ("Could not format period " ++ (if isLate then "pm" else "am")))

/-- The largest power of ten that a binary number reaches. -/
def largestPower : Nat := 308

/-- The fraction of the second to this many places. It is rounded, and then shifted, as a binary number. -/
def fractionText (micro places : Nat) : Except Fault (List Char) :=
  if largestPower < places then .error ⟨.overflow, "int too large to convert to float"⟩
  else
    let ratioOf : Binary64 → Nat × Nat
      | .finite _ m e => Binary64.ratio m e
      | _ => (0, 1)
    let (n, d) := ratioOf (Binary64.ofRatio false micro TimeOfDay.microsPerSecond)
    let (n, d) := ratioOf
      (Binary64.ofRatio false (Binary64.nearest (n * Nat.pow 10 places) d) (Nat.pow 10 places))
    let (power, unit) := ratioOf (Binary64.ofRatio false (Nat.pow 10 places) 1)
    let (n, d) := ratioOf (Binary64.ofRatio false (n * power) (d * unit))
    .ok (padded (n / d) places)

/-- Seconds of the offset; a moment without one is in universal time. -/
def offsetSeconds (m : Moment) : Int := (m.time.offset.getD 0).fdiv TimeOfDay.microsPerSecond

/-- How an offset from universal time is written. -/
inductive OffsetForm where
  | hours
  | basic
  | extended
  | coded
deriving DecidableEq, Repr

/-- The whole hours below the offset, with a sign, and the minutes above them. -/
def offsetText (names : CalendarNames) (m : Moment) (form : OffsetForm) (zulu : Bool) : List Char :=
  let seconds := m.offsetSeconds
  let hours := seconds.fdiv 3600
  let left := (seconds.fmod 3600).toNat
  let signed := (if hours < 0 then '-' else '+') :: twoDigits hours.natAbs
  let minutes := twoDigits (left / 60)
  if zulu && seconds == 0 then ['Z']
  else match form with
    | .hours => if left = 0 then signed else signed ++ minutes
    | .basic => signed ++ minutes
    | .extended => signed ++ ':' :: minutes
    | .coded => names.zones.offsetCode.toList ++ signed ++ ':' :: minutes

def isUniversal (m : Moment) : Bool := (m.time.offset.getD 0) == 0

/-- The city that stands for a zone. -/
def zoneCity (m : Moment) : List Char :=
  "UTC".toList ++ (if m.isUniversal then [] else TimeOfDay.offsetText (m.time.offset.getD 0))

def zonePlace (names : CalendarNames) (m : Moment) : List Char :=
  names.zones.placeBefore.toList ++ m.zoneCity ++ names.zones.placeAfter.toList

def zoneText (names : CalendarNames) (m : Moment) (letter : Char) (width : Nat) : List Char :=
  match letter, width with
  | 'z', 4 => if m.isUniversal then names.zones.universal.toList else m.offsetText names .coded false
  | 'z', _ => if m.isUniversal then "UTC".toList else m.offsetText names .basic false
  | 'Z', 4 | 'O', 4 => m.offsetText names .coded false
  | 'Z', 5 => m.offsetText names .extended true
  | 'Z', _ => m.offsetText names .basic false
  | 'O', _ => "None".toList
  | 'X', 1 => m.offsetText names .hours true
  | 'X', 2 | 'X', 4 => m.offsetText names .basic true
  | 'X', _ => m.offsetText names .extended true
  | 'x', 1 => m.offsetText names .hours false
  | 'x', 2 | 'x', 4 => m.offsetText names .basic false
  | 'x', _ => m.offsetText names .extended false
  | 'V', 2 => if m.isUniversal then "Etc/UTC".toList else m.zoneCity
  | 'V', 3 => m.zoneCity
  | _, _ => m.zonePlace names

def fieldText (names : CalendarNames) (rules : WeekRules) (m : Moment) (letter : Char)
    (width : Nat) : Except Fault (List Char) :=
  let clock := m.time
  match letter with
  | 'G' => .ok (names.era.ofCount width).toList
  | 'y' | 'u' => .ok (yearText m.date.year width)
  | 'Y' => (rules.weekYear m.date).map fun year => yearText year width
  | 'Q' | 'q' => .ok (quarterText names m width)
  | 'M' => .ok (monthText names.months m width)
  | 'L' => .ok (monthText names.monthsAlone m width)
  | 'w' => (rules.weekOfYear m.date).map fun week => padded week width
  | 'W' => .ok (natDigits (rules.weekOfMonth m.date))
  | 'd' => .ok (padded m.date.day width)
  | 'D' => .ok (padded m.date.dayOfYear width)
  | 'F' => .ok (natDigits ((m.date.day - 1) / 7 + 1))
  | 'E' => .ok (weekdayName names m false width)
  | 'e' => .ok (localWeekday names rules m false width)
  | 'c' => .ok (localWeekday names rules m true width)
  | 'a' | 'b' | 'B' => halfDayText names m width
  | 'h' => .ok (padded ((clock.hour + 11) % 12 + 1) width)
  | 'H' => .ok (padded clock.hour width)
  | 'K' => .ok (padded (clock.hour % 12) width)
  | 'k' => .ok (padded ((clock.hour + 23) % 24 + 1) width)
  | 'm' => .ok (padded clock.minute width)
  | 's' => .ok (padded clock.second width)
  | 'S' => fractionText clock.micro width
  | 'A' => .ok (padded (clock.micros / 1000) width)
  | 'z' | 'Z' | 'O' | 'v' | 'V' | 'x' | 'X' => .ok (zoneText names m letter width)
  | _ => .error (.missingKey (quoteString ("Unsupported date/time field " ++
      String.ofList (quote [letter]))))

def elementText (names : CalendarNames) (rules : WeekRules) (m : Moment) :
    DateElement → Except Fault (List Char)
  | .text s => .ok s
  | .field letter width => fieldText names rules m letter width

/-- The moment under a pattern; the first field that cannot be written ends it. -/
def render (names : CalendarNames) (rules : WeekRules) (pattern : DatePattern) (m : Moment) :
    Except Fault String := do
  let texts ← pattern.mapM (elementText names rules m)
  return String.ofList texts.flatten

end Moment
end MessageFormat
