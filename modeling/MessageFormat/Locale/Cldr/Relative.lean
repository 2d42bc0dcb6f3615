import MessageFormat.Binary64
import MessageFormat.Locale.Cldr.Numbers

/-!
Phrases for times relative to now. A width that lacks one direction has it only where the amount, in whole
seconds, turns to the other one.
-/

set_option autoImplicit false

namespace MessageFormat.Locale.Cldr

/-- Fields, the units that long spans are told in, and their seconds. -/
def spans : List (String × String × Nat) :=
  [("year", "year", 365 * 86400), ("quarter", "month", 90 * 86400), ("month", "month", 30 * 86400),
   ("week", "week", 7 * 86400), ("day", "day", 86400), ("hour", "hour", 3600), ("minute", "minute", 60),
   ("second", "second", 1)]

def secondsOf (unit : String) : Nat := ((valueOf? spans unit).map (·.2)).getD 1

/-- The longest duration, in days. -/
def longestSpan : Nat := 999999999

/-- Whole seconds of a span, toward the past, if it is not too long. -/
def wholeSeconds? (x : Binary64) : Option Int :=
  match x with
  | .finite negative m e =>
    let micros : Int := Binary64.millionths m e
    let seconds := (if negative then -micros else micros).fdiv 1000000
    if (seconds.fdiv 86400).natAbs ≤ longestSpan then some seconds else none
  | _ => none

namespace RelativeEntry

def direction (r : RelativeEntry) (isPast : Bool) : Option (Forms Phrase) :=
  if isPast then r.past else r.future

def directionName (isPast : Bool) : String := if isPast then "past" else "future"

def isEmpty (r : RelativeEntry) : Bool := r.future.isNone && r.past.isNone

end RelativeEntry

namespace Entry

/-- The phrases of a field in a width, or else in the long one. -/
def relative? (e : Entry) (field : String) (width : ListWidth) : Option RelativeEntry :=
  let named (w : ListWidth) := e.relative.find? fun r => r.field == field && r.width == w && !r.isEmpty
  named width <|> named .long

/-- A span in whole units, at least one unless there is no span. -/
def renderSpan (e : Entry) (unit : String) (width : ListWidth) (seconds : Int) :
    Except Fault (Option String) := do
  let isPast := decide (seconds < 0)
  let entry ← required unit (e.relative? unit width)
  let forms ← required (RelativeEntry.directionName isPast) (entry.direction isPast)
  let size := seconds.natAbs
  let count := if size = 0 then 0 else max 1 (Binary64.nearest size (secondsOf unit))
  let category ← Fault.arithmetic (e.category (Decimal.ofNat count))
  return some (((forms.get? category).map (·.fill (toString count))).getD "")

def renderElapsed (e : Entry) (field : String) (width : ListWidth) (amount : Decimal) :
    Except Fault (Option String) := do
  match valueOf? spans field with
  | none => return none
  | some (unit, seconds) =>
    let span ← Fault.arithmetic (amount.multiply (Decimal.ofNat seconds))
    match wholeSeconds? (Binary64.ofDecimal span) with
    | none => return none
    | some seconds => e.renderSpan unit width seconds

/-- An amount of a field before or after now. -/
def renderRelative (e : Entry) (field : String) (amount : Decimal) (width : ListWidth) :
    Except Fault (Option String) := do
  match (e.relative? field width).bind fun r => r.direction amount.isNegative with
  | none => e.renderElapsed field width amount
  | some forms =>
    let magnitude ← Fault.arithmetic amount.absolute
    let category ← Fault.arithmetic (e.category magnitude)
    match forms.get? category with
    | none => e.renderElapsed field width amount
    | some phrase =>
      let text ← e.renderNumber {} magnitude
      return some (phrase.fill text)

end Entry
end MessageFormat.Locale.Cldr
