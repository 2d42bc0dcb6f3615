import MessageFormat.Locale.Cldr.Arabic
import MessageFormat.Locale.Cldr.Dates
import MessageFormat.Locale.Cldr.English
import MessageFormat.Locale.Cldr.French
import MessageFormat.Locale.Cldr.German
import MessageFormat.Locale.Cldr.Identifier
import MessageFormat.Locale.Cldr.Japanese
import MessageFormat.Locale.Cldr.Language
import MessageFormat.Locale.Cldr.Relative
import MessageFormat.Locale.Cldr.Russian

/-!
A backend of held locales, in the manner of the Unicode Common Locale Data Repository: a locale has the data of
its language and what its territory adds.
-/

set_option autoImplicit false

namespace MessageFormat.Locale.Cldr

/-- Digits of a numbering system are ten code points in a row. -/
def zeroOf? (system : String) : Option Nat :=
  valueOf? [("latn", 0x0030), ("arab", 0x0660), ("arabext", 0x06F0), ("adlm", 0x1E950), ("beng", 0x09E6),
    ("deva", 0x0966), ("fullwide", 0xFF10), ("gujr", 0x0AE6), ("guru", 0x0A66), ("khmr", 0x17E0),
    ("knda", 0x0CE6), ("laoo", 0x0ED0), ("mlym", 0x0D66), ("mong", 0x1810), ("mtei", 0xABF0),
    ("mymr", 0x1040), ("nkoo", 0x07C0), ("olck", 0x1C50), ("orya", 0x0B66), ("rohg", 0x10D30),
    ("tamldec", 0x0BE6), ("telu", 0x0C66), ("thai", 0x0E50), ("tibt", 0x0F20)] system

def latinDigits : String := "0123456789"

/-- The digits of an unknown system are Latin ones. -/
def digitsOfSystem (system : String) : String :=
  match zeroOf? system with
  | some first => String.ofList ((List.range 10).map fun k => Char.ofNat (first + k))
  | none => latinDigits

structure Known where
  entry : Entry
  currency : Option String := none
  weeks : WeekRules := {}

/-- The locales that data is held for. -/
def known : List (String × Known) :=
  [("en", { entry := English.entry }),
   ("en_US", { entry := English.entry, currency := some "USD", weeks := ⟨6, 1⟩ }),
   ("en_GB", { entry := English.entry, currency := some "GBP", weeks := ⟨0, 4⟩ }),
   ("de", { entry := German.entry }),
   ("de_DE", { entry := German.entry, currency := some "EUR", weeks := ⟨0, 4⟩ }),
   ("fr", { entry := French.entry }),
   ("ru", { entry := Russian.entry }),
   ("ar", { entry := Arabic.entry }),
   ("ar_EG", { entry := Arabic.entry, currency := some "EGP", weeks := ⟨5, 1⟩ }),
   ("ja", { entry := Japanese.entry }),
   ("hi", { entry := Language.hindi }),
   ("sv", { entry := Language.swedish }),
   ("lv", { entry := Language.latvian }),
   ("es", { entry := Language.spanish }),
   ("pt", { entry := Language.portuguese }),
   ("it", { entry := Language.italian }),
   ("nl", { entry := Language.dutch }),
   ("pl", { entry := Language.polish })]

/-- The held locale that an identifier names. -/
def find (locale : String) : Except Fault Known := do
  let id ← Identifier.read (underscored locale)
  match valueOf? known id.text with
  | some k => return k
  | none => .error ⟨.unknownLocale, s!"unknown locale {Text.quoteString id.text}"⟩

def find? (locale : String) : Option Known := (find locale).toOption

/-- Two places with a text between them. -/
def joint (text : String) : String := "\x7b0\x7d" ++ text ++ "\x7b1\x7d"

namespace JointEntry

def isEmpty (j : JointEntry) : Bool := j == {}

def patterns (j : JointEntry) : Except Fault ListPatterns := do
  let start ← required "start" j.start
  let middle ← required "middle" j.middle
  let last ← required "end" j.last
  let pair ← required "2" j.pair
  return ⟨joint start, joint middle, joint last, joint pair⟩

end JointEntry

namespace Entry

/-- The joints of a list style in a width, or else in the long one. -/
def joints? (e : Entry) (type : ListType) (width : ListWidth) : Option JointEntry :=
  let named (w : ListWidth) := e.lists.find? fun l => l.type == type && l.width == w
  ((named width <|> named .long).map (·.joints)).filter (!·.isEmpty)

def listPatterns (e : Entry) (type : ListType) (width : ListWidth) :
    Except Fault (Option ListPatterns) :=
  match e.joints? type width with
  | none => .ok none
  | some joints => joints.patterns.map some

end Entry

def datesOf (k : Known) : Except Fault DateEntry := required "date" k.entry.dates

/-- A locale that is not held answers small questions as if it had no data, and fails to render. -/
def answer (request : Request) (locale : String) : Except Fault request.Answer :=
  match request with
  | .pluralCategory operands ordinal =>
    match find? locale with
    | none => .ok PluralCategory.other.text
    | some k => do
      let rules := if ordinal then k.entry.ordinal else k.entry.cardinal
      let category ← Fault.arithmetic (rules.category operands.n)
      return category.text
  | .numberingDigits =>
    .ok (((find? locale).map fun k => digitsOfSystem k.entry.numberingSystem).getD latinDigits)
  | .numberSymbols =>
    .ok ((((find? locale).bind fun k => k.entry.numbers).map fun n => n.marks.symbols).getD {})
  | .ordinalSuffix category =>
    .ok ((find? locale).bind fun k => k.entry.ordinalSuffixes.get? category)
  | .formatNumber magnitude options => do
    let k ← find locale
    k.entry.renderNumber options magnitude
  | .defaultCurrency => .ok ((find? locale).bind (·.currency))
  | .formatUnit magnitude unit width options => do
    let k ← find locale
    k.entry.renderUnit unit width options magnitude
  | .datePattern kind style => do
    let k ← find locale
    let d ← datesOf k
    return d.pattern kind style
  | .skeletonPattern skeleton => do
    let k ← find locale
    let d ← datesOf k
    return d.skeletonPattern? skeleton
  | .formatMoment moment pattern => do
    let k ← find locale
    let d ← datesOf k
    d.render k.weeks moment pattern
  | .intervalFallback => .ok (joint (((find? locale).map (·.entry.intervalJoint)).getD " – "))
  | .formatInterval start stop skeleton => do
    let k ← find locale
    let d ← datesOf k
    k.entry.renderInterval d k.weeks start stop skeleton
  | .listPatterns type width =>
    match find? locale with
    | none => .ok none
    | some k => k.entry.listPatterns type width
  | .formatRelative field amount width => do
    let k ← find locale
    k.entry.renderRelative field amount width

/-- A held locale counts as having data of every kind. -/
def backend : Backend where
  hasData := fun locale _ => (find? locale).isSome
  available := known.map fun k => hyphenated k.1
  answer := answer

end MessageFormat.Locale.Cldr
