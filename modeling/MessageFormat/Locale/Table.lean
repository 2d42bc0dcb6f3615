import MessageFormat.Calendar.Text
import MessageFormat.Locale.Backend
import MessageFormat.Text.Quoted

/-!
A small backend that is filled from tables. What it is not told to render it marks with all that it was
asked.
-/

set_option autoImplicit false

namespace MessageFormat.Locale

/-- How plural categories are chosen: always the same, by single operands, or as in English. -/
inductive PluralRule where
  | constant (category : String)
  | operands
  | english
deriving DecidableEq, Repr

/-- What a rendering does: marks what was asked, writes the plain value, or fails. -/
inductive Rendering where
  | marked
  | plain
  | failing (kind : FaultKind)
deriving DecidableEq, Repr

structure Table where
  kinds : List (String × List DataKind) := []
  pluralRules : List (String × PluralRule) := []
  digits : List (String × String) := []
  symbols : List (String × Number.Symbols) := []
  suffixes : List (String × String) := []
  numbers : Rendering := .marked
  currencies : List (String × String) := []
  units : List (String × String) := []
  skeletons : List (String × String) := []
  moments : Rendering := .marked
  intervals : Rendering := .marked
  intervalFallback : String := "\x7b0\x7d ~ \x7b1\x7d"
  lists : Option ListPatterns :=
    some ⟨"\x7b0\x7d; \x7b1\x7d", "\x7b0\x7d, \x7b1\x7d", "\x7b0\x7d & \x7b1\x7d", "\x7b0\x7d + \x7b1\x7d"⟩
  relative : Option Rendering := some .marked
deriving DecidableEq, Repr

namespace PluralRule

def byOperands (o : PluralOperands) : String :=
  if o.v ≠ 0 && o.t == 0 then "zero"
  else if o.w ≠ 0 then "few"
  else if o.e ≠ 0 then "many"
  else if o.negative then "two"
  else if o.i == 1 then "one"
  else "other"

def ordinal (o : PluralOperands) : String :=
  if o.v ≠ 0 || (11 ≤ o.i % 100 && o.i % 100 ≤ 13) then "other"
  else match o.i % 10 with
    | 1 => "one"
    | 2 => "two"
    | 3 => "few"
    | _ => "other"

def category (rule : PluralRule) (o : PluralOperands) (ordinal : Bool) : String :=
  match rule with
  | .constant category => category
  | .operands => byOperands o
  | .english =>
    if ordinal then PluralRule.ordinal o
    else if o.i == 1 && o.v == 0 then "one" else "other"

/-- The rule of a name; any other name is English. -/
def ofName (name : String) : PluralRule :=
  match Text.strip? "const:".toList name.toList with
  | some category => .constant (String.ofList category)
  | none => if name == "operands" then .operands else .english

end PluralRule

namespace Rendering

/-- The kinds of faults that a rendering can be told to end with. -/
def faultKinds : List FaultKind := [.value, .key, .type, .runtime, .attribute, .overflow]

/-- The rendering of a name; any other name marks. -/
def ofName (name : String) : Rendering :=
  match faultKinds.find? (·.name == name) with
  | some kind => .failing kind
  | none => if name == "plain" then .plain else .marked

def fault (kind : FaultKind) : Fault :=
  if kind = .key then Fault.missingKey (Text.quoteString "table") else ⟨kind, "table"⟩

/-- The marked text, unless the rendering fails. -/
def answer {α : Type} (r : Rendering) (marked : α) : Except Fault α :=
  match r with
  | .failing kind => .error (fault kind)
  | _ => .ok marked

end Rendering

def optionText (s : Option String) : String := s.getD "~"

def optionNumber (n : Option Nat) : String := optionText (n.map toString)

/-- All that a number was to be rendered with. -/
def markedNumber (locale : String) (magnitude : Decimal) (o : Number.RenderOptions) : String :=
  let fields := [o.style.text, toString o.minInteger, optionNumber o.minFraction,
    optionNumber o.maxFraction, if o.grouping then "g" else "-", optionText o.currency,
    o.currencyDisplay.text, optionText o.pattern]
  magnitude.toString ++ "[" ++ ";".intercalate fields ++ "]@" ++ locale

namespace Table

def lookup? {α : Type} (entries : List (String × α)) (key : String) : Option α :=
  (entries.find? fun e => e.1 == key).map (·.2)

def hasData (t : Table) (locale : String) (kind : DataKind) : Bool :=
  ((lookup? t.kinds locale).map fun kinds => kinds.contains kind).getD false

def number (t : Table) (locale : String) (magnitude : Decimal) (o : Number.RenderOptions) :
    Except Fault String :=
  match t.numbers with
  | .plain => .ok magnitude.toString
  | r => r.answer (markedNumber locale magnitude o)

def unitText (t : Table) (magnitude : Decimal) (unit : String) (width : Number.UnitWidth)
    (o : Number.RenderOptions) : Option String :=
  (lookup? t.units unit).map fun label =>
    let limit := (o.maxFraction.map toString).getD "None"
    s!"{magnitude.toString} {label}/{width.text}/{limit}"

def iso (m : Moment) : String := String.ofList m.iso

def answer (t : Table) (request : Request) (locale : String) : Except Fault request.Answer :=
  match request with
  | .pluralCategory operands ordinal =>
    .ok (((lookup? t.pluralRules locale).getD .english).category operands ordinal)
  | .numberingDigits => .ok ((lookup? t.digits locale).getD "0123456789")
  | .numberSymbols => .ok ((lookup? t.symbols locale).getD ⟨"+", "-", "E"⟩)
  | .ordinalSuffix category => .ok (lookup? t.suffixes category.text)
  | .formatNumber magnitude options => t.number locale magnitude options
  | .defaultCurrency => .ok (lookup? t.currencies locale)
  | .formatUnit magnitude unit width options => .ok (t.unitText magnitude unit width options)
  | .datePattern kind style => .ok (kind.text ++ "-" ++ style)
  | .skeletonPattern skeleton => .ok (lookup? t.skeletons skeleton)
  | .formatMoment moment pattern => t.moments.answer (iso moment ++ "|" ++ pattern)
  | .intervalFallback => .ok t.intervalFallback
  | .formatInterval start stop skeleton =>
    t.intervals.answer (iso start ++ ".." ++ iso stop ++ "|" ++ skeleton)
  | .listPatterns .. => .ok t.lists
  | .formatRelative field amount width =>
    match t.relative with
    | none => .ok none
    | some r => r.answer (some s!"<{amount.toString} {field} {width.text}>")

def backend (t : Table) : Backend where
  hasData := t.hasData
  available := t.kinds.map (·.1)
  answer := t.answer

end Table
end MessageFormat.Locale
