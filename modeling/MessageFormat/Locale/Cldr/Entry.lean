import MessageFormat.Calendar.Rendering
import MessageFormat.Number.Pattern
import MessageFormat.Plural.Condition

/-!
What is known of a locale: plural rules, number patterns and marks, units, list joints, phrases for relative
times, and date patterns with their names.
-/

set_option autoImplicit false

namespace MessageFormat.Locale.Cldr

/-- A text with one place for an item, or with none. -/
inductive Phrase where
  | fixed (text : String)
  | around (before after : String)
deriving DecidableEq, Repr

def Phrase.fill (item : String) : Phrase → String
  | .fixed text => text
  | .around before after => before ++ item ++ after

/-- Texts by plural category; some categories may be missing. -/
abbrev Forms (α : Type) := List (PluralCategory × α)

namespace Forms

variable {α : Type}

def form? (forms : Forms α) (category : PluralCategory) : Option α :=
  (forms.find? (·.1 == category)).map (·.2)

/-- The text of a category, or else the one of `other`. -/
def get? (forms : Forms α) (category : PluralCategory) : Option α :=
  forms.form? category <|> forms.form? .other

end Forms

/-- How numbers from a power of ten up are shortened. -/
structure CompactRow where
  power : Nat
  patterns : Forms String
deriving DecidableEq, Repr

structure NumberEntry where
  marks : NumberMarks
  decimal : String := "#,##0.###"
  percent : String := "#,##0%"
  currency : String
  accounting : String
  currencySymbols : List (String × String)
  currencyNames : List (String × Forms String) := []
  compactShort : Option (List CompactRow) := none
  compactLong : Option (List CompactRow) := none
  compactCurrency : Option (List CompactRow) := none
deriving DecidableEq, Repr

structure UnitEntry where
  id : String
  phrases : List (ListWidth × Forms Phrase)
  labels : List (ListWidth × String)
deriving DecidableEq, Repr

/-- Texts between items; a list style may lack some of them. -/
structure JointEntry where
  start : Option String := none
  middle : Option String := none
  last : Option String := none
  pair : Option String := none
deriving DecidableEq, Repr

structure ListEntry where
  type : ListType
  width : ListWidth
  joints : JointEntry
deriving DecidableEq, Repr

structure RelativeEntry where
  field : String
  width : ListWidth
  future : Option (Forms Phrase) := none
  past : Option (Forms Phrase) := none
deriving DecidableEq, Repr

/-- A text for each length of dates and times. -/
structure Lengths where
  short : String
  medium : String
  long : String
  full : String
deriving DecidableEq, Repr

/-- The pattern of the first moment and that of the second, if this field is the largest that differs. -/
structure IntervalPart where
  letter : Char
  first : String
  second : String
deriving DecidableEq, Repr

structure DateEntry where
  dates : Lengths
  times : Lengths
  joints : Lengths
  names : CalendarNames
  /-- Patterns by skeleton, in order. -/
  skeletons : List (String × String)
  /-- Parts by skeleton, in order. -/
  intervals : List (String × List IntervalPart) := []
deriving DecidableEq, Repr

structure Entry where
  cardinal : PluralRules := []
  ordinal : PluralRules := []
  ordinalSuffixes : Forms String := []
  numberingSystem : String := "latn"
  numbers : Option NumberEntry := none
  units : List UnitEntry := []
  lists : List ListEntry := []
  relative : List RelativeEntry := []
  dates : Option DateEntry := none
  intervalJoint : String := " – "
deriving DecidableEq, Repr

/-- The value of a key. -/
def valueOf? {α : Type} (entries : List (String × α)) (key : String) : Option α :=
  (entries.find? (·.1 == key)).map (·.2)

/-- What the data does not hold is a missing key. -/
def required {α : Type} (key : String) (a : Option α) : Except Fault α :=
  match a with
  | some a => .ok a
  | none => .error (.missingKey (Text.quoteString key))

end MessageFormat.Locale.Cldr
