import MessageFormat.Fault
import MessageFormat.Number.Spec
import MessageFormat.Plural.Category

/-!
What is asked of locale data. A backend answers requests about one locale; it may fail, and it may lack what
is asked for.
-/

set_option autoImplicit false

namespace MessageFormat

/-- Kinds of data, each of which a locale may or may not have. -/
inductive DataKind where
  | plural | ordinal | number | date | currency | unit | list | relativeTime
deriving DecidableEq, Repr

def DataKind.text : DataKind → String
  | .plural => "plural"
  | .ordinal => "ordinal"
  | .number => "number"
  | .date => "date"
  | .currency => "currency"
  | .unit => "unit"
  | .list => "list"
  | .relativeTime => "relative-time"

def DataKind.all : List DataKind :=
  [.plural, .ordinal, .number, .date, .currency, .unit, .list, .relativeTime]

inductive DateKind where
  | date | time | dateTime
deriving DecidableEq, Repr

def DateKind.text : DateKind → String
  | .date => "date"
  | .time => "time"
  | .dateTime => "datetime"

def DateKind.all : List DateKind := [.date, .time, .dateTime]

inductive ListType where
  | conjunction | disjunction | unit
deriving DecidableEq, Repr

def ListType.text : ListType → String
  | .conjunction => "conjunction"
  | .disjunction => "disjunction"
  | .unit => "unit"

def ListType.all : List ListType := [.conjunction, .disjunction, .unit]

inductive ListWidth where
  | long | short | narrow
deriving DecidableEq, Repr

def ListWidth.text : ListWidth → String
  | .long => "long"
  | .short => "short"
  | .narrow => "narrow"

def ListWidth.all : List ListWidth := [.long, .short, .narrow]

/-- Patterns of two places that join the first, inner and last items of a list, or a pair. -/
structure ListPatterns where
  start : String
  middle : String
  last : String
  pair : String
deriving DecidableEq, Repr

namespace Number

/-- The family of patterns that a magnitude is rendered with. -/
inductive Style where
  | decimal | percent | permille | currency | accounting | compactShort | compactLong
deriving DecidableEq, Repr

def Style.text : Style → String
  | .decimal => "decimal"
  | .percent => "percent"
  | .permille => "permille"
  | .currency => "currency"
  | .accounting => "accounting"
  | .compactShort => "compact-short"
  | .compactLong => "compact-long"

def Style.all : List Style :=
  [.decimal, .percent, .permille, .currency, .accounting, .compactShort, .compactLong]

/-- How a magnitude is to be rendered; a missing digit limit leaves the locale's. -/
structure RenderOptions where
  style : Style := .decimal
  minInteger : Nat := 1
  minFraction : Option Nat := none
  maxFraction : Option Nat := none
  grouping : Bool := true
  currency : Option String := none
  currencyDisplay : CurrencyDisplay := .symbol
  pattern : Option String := none
deriving DecidableEq, Repr

structure Symbols where
  plus : String := "+"
  minus : String := "-"
  exponential : String := "E"
deriving DecidableEq, Repr

end Number

namespace Locale

/-- A question about one locale. -/
inductive Request where
  | pluralCategory (operands : PluralOperands) (ordinal : Bool)
  | numberingDigits
  | numberSymbols
  | ordinalSuffix (category : PluralCategory)
  | formatNumber (magnitude : Decimal) (options : Number.RenderOptions)
  | defaultCurrency
  | formatUnit (magnitude : Decimal) (unit : String) (width : Number.UnitWidth)
      (options : Number.RenderOptions)
  | datePattern (kind : DateKind) (style : String)
  | skeletonPattern (skeleton : String)
  | formatMoment (moment : Moment) (pattern : String)
  | intervalFallback
  | formatInterval (start stop : Moment) (skeleton : String)
  | listPatterns (type : ListType) (width : ListWidth)
  | formatRelative (field : String) (amount : Decimal) (width : ListWidth)
deriving DecidableEq, Repr

/-- What a request is answered with; an optional answer says that there is no such data. -/
abbrev Request.Answer : Request → Type
  | .pluralCategory .. | .numberingDigits | .formatNumber .. | .datePattern .. | .formatMoment ..
  | .intervalFallback | .formatInterval .. => String
  | .numberSymbols => Number.Symbols
  | .ordinalSuffix .. | .defaultCurrency | .formatUnit .. | .skeletonPattern ..
  | .formatRelative .. => Option String
  | .listPatterns .. => Option ListPatterns

structure Backend where
  hasData : String → DataKind → Bool
  available : List String
  answer : (request : Request) → (locale : String) → Except Fault request.Answer

/-- The first of these locales that has data of a kind. -/
def Backend.firstWith (b : Backend) (kind : DataKind) (chain : List String) : Option String :=
  chain.find? fun locale => b.hasData locale kind

/-- A request and the locale that it was made for. -/
structure Call where
  request : Request
  locale : String
deriving DecidableEq, Repr

/-- The name that a request is recorded by; the cheapest ones are not recorded. -/
def Request.name? : Request → Option String
  | .pluralCategory _ ordinal => some (if ordinal then "ordinal_category" else "plural_category")
  | .numberingDigits | .numberSymbols | .intervalFallback => none
  | .ordinalSuffix _ => some "ordinal_suffix"
  | .formatNumber .. => some "format_number"
  | .defaultCurrency => some "default_currency"
  | .formatUnit .. => some "format_unit"
  | .datePattern .. => some "date_pattern"
  | .skeletonPattern _ => some "date_skeleton_pattern"
  | .formatMoment .. => some "format_datetime"
  | .formatInterval .. => some "format_date_interval"
  | .listPatterns type width => some s!"list_patterns/{type.text}/{width.text}"
  | .formatRelative .. => some "format_relative_time"

def Call.text? (c : Call) : Option String := c.request.name?.map fun name => name ++ ":" ++ c.locale

end Locale
end MessageFormat
