import MessageFormat.Format.List

/-!
Durations in hours, minutes and seconds, by words or as on a timer.
-/

set_option autoImplicit false

namespace MessageFormat

open Text (isDigit)

/-- The parts that an ISO 8601 duration may have, with their seconds: years and months are of 365 and 30
days. -/
structure DurationPart where
  letter : Char
  seconds : Nat
deriving DecidableEq, Repr

namespace DurationPart

def ofDate : List DurationPart :=
  [⟨'Y', 365 * 86400⟩, ⟨'M', 30 * 86400⟩, ⟨'W', 7 * 86400⟩, ⟨'D', 86400⟩]

def ofTime : List DurationPart := [⟨'H', 3600⟩, ⟨'M', 60⟩, ⟨'S', 1⟩]

/-- The long s counts as an s. -/
def matchesLetter (letter c : Char) : Bool := c.toUpper == letter || (letter == 'S' && c == 'ſ')

/-- Digits, perhaps with a fraction after a point or a comma. -/
def amount? (s : List Char) : Option (Decimal × List Char) :=
  match s.span isDigit with
  | ([], _) => none
  | (whole, r) =>
    let (places, r) := match r with
      | c :: rest =>
        if c = '.' || c = ',' then
          match rest.span isDigit with
          | ([], _) => ([], r)
          | p => p
        else ([], r)
      | [] => ([], r)
    some (⟨false, Text.digitsValue (whole ++ places), -(places.length : Int)⟩, r)

/-- The parts in their order, each of which may be missing. -/
def read : List DurationPart → List Char → List (Decimal × Nat) × List Char
  | [], s => ([], s)
  | p :: ps, s =>
    match amount? s with
    | some (amount, c :: r) =>
      if matchesLetter p.letter c then
        let (found, rest) := read ps r
        ((amount, p.seconds) :: found, rest)
      else read ps s
    | _ => read ps s

end DurationPart

/-- The sign and the parts of an ISO 8601 duration. -/
def isoDuration? (s : List Char) : Option (Bool × List (Decimal × Nat)) :=
  let (negative, r) := Decimal.splitSign s
  match r with
  | c :: r =>
    if !DurationPart.matchesLetter 'P' c then none
    else
      let (dateParts, r) := DurationPart.read DurationPart.ofDate r
      match r with
      | [] => some (negative, dateParts)
      | t :: r =>
        if !DurationPart.matchesLetter 'T' t then none
        else
          let (timeParts, r) := DurationPart.read DurationPart.ofTime r
          if r.isEmpty then some (negative, dateParts ++ timeParts) else none
  | [] => none

/-- The sum of the parts in seconds. -/
def partsTotal (parts : List (Decimal × Nat)) : Decimal.Result :=
  parts.foldlM (fun total p => do
    let seconds ← p.1.multiply (Decimal.ofNat p.2)
    total.add seconds) Decimal.zero

namespace Value

/-- The seconds that a value is or writes; no seconds if it is no duration. -/
def seconds? (v : Value) : Except Decimal.Signal (Option Decimal) :=
  match v with
  | .duration d =>
    let total := Binary64.ofRatio (d.micros < 0) d.micros.natAbs 1000000
    .ok (Decimal.read? total.text)
  | .text s =>
    match isoDuration? (Text.trim s.toList) with
    | some (_, []) => .ok none
    | some (negative, parts) => do
      let total ← partsTotal parts
      let total ← if negative then total.minus else .ok total
      return some total
    | none => .ok v.decimal?
  | v => .ok v.decimal?

end Value

namespace Format

open MessageFormat.Locale (Context)
open MessageFormat.Number (UnitWidth)

/-- Hours, minutes and seconds with colons, rounded to whole seconds. -/
def timer (seconds : Decimal) : Except Fault String := do
  let total ← Fault.arithmetic seconds.absolute
  let total := total.toIntegral.integerPart
  let hours ← Text.Integer.write (total / 3600)
  let sign := if seconds.isNegative && total ≠ 0 then ['-'] else []
  return String.ofList (sign ++ hours ++ ':' :: twoDigits (total / 60 % 60) ++
    ':' :: twoDigits (total % 60))

def hourUnit : String := "duration-hour"

def minuteUnit : String := "duration-minute"

def secondUnit : String := "duration-second"

/-- Whole units taken out of an amount of seconds, and what remains. -/
def takeUnits (remaining : Decimal) (unit : Nat) : Except Decimal.Signal (Decimal × Decimal) := do
  let whole ← remaining.quotient (Decimal.ofNat unit)
  let amount := Decimal.ofNat whole.integerPart
  let taken ← amount.multiply (Decimal.ofNat unit)
  let rest ← remaining.subtract taken
  return (amount, rest)

/-- Hours, minutes and seconds that are not zero, or zero seconds. -/
def durationParts (seconds : Decimal) : Except Decimal.Signal (List (String × Decimal)) := do
  let total ← seconds.absolute
  let (hours, rest) ← takeUnits total 3600
  let (minutes, rest) ← takeUnits rest 60
  let parts := [(hourUnit, hours), (minuteUnit, minutes), (secondUnit, rest)].filter
    fun p => !p.2.isZero
  return if parts.isEmpty then [(secondUnit, Decimal.zero)] else parts

def durationWidth (style : String) : UnitWidth :=
  match style with
  | "short" => .short
  | "narrow" => .narrow
  | _ => .fullName

def listWidth : UnitWidth → ListWidth
  | .short => .short
  | .narrow => .narrow
  | _ => .long

/-- The word of a unit that the locale data does not know. -/
def unitWord (unit : String) : String := String.ofList (unit.toList.drop 9)

def durationPart (context : Context) (width : UnitWidth) (part : String × Decimal) :
    Outcome String := do
  let text ← match context.localeFor .unit with
    | none => pure none
    | some locale => context.ask (.formatUnit part.2 part.1 width {}) locale
  match text.filter (!·.isEmpty) with
  | some text => return text
  | none =>
    let amount ← plainAmount context part.2
    return amount ++ " " ++ unitWord part.1

def duration (context : Context) (g : Graph) (style : Option String) (value : Value) :
    Outcome String := do
  let seconds ← Outcome.arithmetic value.seconds?
  let some seconds := seconds | return g.plainText value
  let style := Text.lowerString (style.filter (!·.isEmpty) |>.getD "long")
  if style == "timer" then
    let text ← Outcome.ofFault (timer seconds)
    context.transliterate text
  else
    let width := durationWidth style
    let parts ← Outcome.arithmetic (durationParts seconds)
    let rendered ← parts.mapM (durationPart context width)
    let text ← joinItems context .unit (listWidth width) rendered
    return if seconds.isNegative then "-" ++ text else text

end Format
end MessageFormat
