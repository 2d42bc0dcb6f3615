import MessageFormat.Calendar.Basic

/-!
Dates, times, moments and durations as text: the ISO 8601 form, the everyday form, and the form that names
the parts.
-/

set_option autoImplicit false

namespace MessageFormat

open Text

def twoDigits (n : Nat) : List Char := padZeros 2 (natDigits n)

/-- Parts in parentheses after a name. -/
def callText (name : String) (parts : List (List Char)) : List Char :=
  name.toList ++ '(' :: (", ".toList).intercalate parts ++ [')']

namespace Duration

/-- Days apart, then hours, minutes, seconds and microseconds if there are any. -/
def text (d : Duration) : List Char :=
  let seconds := d.seconds
  let clock := natDigits (seconds / 3600) ++ ':' :: twoDigits (seconds / 60 % 60) ++
    ':' :: twoDigits (seconds % 60)
  let days := if d.days = 0 then []
    else intText d.days ++ (if d.days.natAbs = 1 then " day, " else " days, ").toList
  let micros := if d.microseconds = 0 then [] else '.' :: padZeros 6 (natDigits d.microseconds)
  days ++ clock ++ micros

/-- The parts that are not zero, by name. -/
def display (d : Duration) : List Char :=
  let part (name : String) (n : Int) : List (List Char) :=
    if n = 0 then [] else [name.toList ++ '=' :: intText n]
  let parts := part "days" d.days ++ part "seconds" d.seconds ++ part "microseconds" d.microseconds
  callText "datetime.timedelta" (if parts.isEmpty then [['0']] else parts)

end Duration

namespace Date

def iso (d : Date) : List Char :=
  padZeros 4 (natDigits d.year) ++ '-' :: twoDigits d.month ++ '-' :: twoDigits d.day

def parts (d : Date) : List (List Char) := [natDigits d.year, natDigits d.month, natDigits d.day]

def display (d : Date) : List Char := callText "datetime.date" d.parts

end Date

namespace TimeOfDay

/-- An offset as hours and minutes, and seconds and microseconds if there are any. -/
def offsetText (offset : Int) : List Char :=
  let n := offset.natAbs
  let seconds := n / microsPerSecond
  let micros := n % microsPerSecond
  (if offset < 0 then '-' else '+') :: twoDigits (seconds / 3600) ++
    ':' :: twoDigits (seconds / 60 % 60) ++
    (if seconds % 60 = 0 ∧ micros = 0 then [] else ':' :: twoDigits (seconds % 60)) ++
    (if micros = 0 then [] else '.' :: padZeros 6 (natDigits micros))

def iso (t : TimeOfDay) : List Char :=
  twoDigits t.hour ++ ':' :: twoDigits t.minute ++ ':' :: twoDigits t.second ++
    (if t.micro = 0 then [] else '.' :: padZeros 6 (natDigits t.micro)) ++
    (match t.offset with
      | none => []
      | some offset => offsetText offset)

def offsetDisplay (offset : Int) : List Char :=
  if offset = 0 then "datetime.timezone.utc".toList
  else callText "datetime.timezone" [Duration.display ⟨offset⟩]

/-- Hour and minute always; seconds and microseconds down to the last that is not zero. -/
def parts (t : TimeOfDay) : List (List Char) :=
  [natDigits t.hour, natDigits t.minute] ++
    (if t.second = 0 ∧ t.micro = 0 then [] else [natDigits t.second]) ++
    (if t.micro = 0 then [] else [natDigits t.micro]) ++
    (match t.offset with
      | none => []
      | some offset => ["tzinfo=".toList ++ offsetDisplay offset])

def display (t : TimeOfDay) : List Char := callText "datetime.time" t.parts

end TimeOfDay

namespace Moment

/-- Date and time with this character between them. -/
def isoWith (separator : Char) (m : Moment) : List Char := m.date.iso ++ separator :: m.time.iso

def iso (m : Moment) : List Char := m.isoWith 'T'

def text (m : Moment) : List Char := m.isoWith ' '

def display (m : Moment) : List Char := callText "datetime.datetime" (m.date.parts ++ m.time.parts)

end Moment
end MessageFormat
