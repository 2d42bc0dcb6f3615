import MessageFormat.Locale.Tag
import MessageFormat.Outcome

/-!
The view of one requested locale: each kind of data comes from the first locale of the chain that has it.
-/

set_option autoImplicit false

namespace MessageFormat.Locale

structure Context where
  backend : Backend
  requested : String
  chain : List String

namespace Context

def build (backend : Backend) (requested fallback : String) : Context :=
  ⟨backend, requested, Locale.chain requested fallback⟩

def localeFor (c : Context) (kind : DataKind) : Option String := c.backend.firstWith kind c.chain

def ask (c : Context) (request : Request) (locale : String) : Outcome request.Answer :=
  Outcome.ask c.backend request locale

/-- The category of a value; without rules every value is `other`. -/
def pluralCategory (c : Context) (value : Value) (ordinal : Bool) : Outcome PluralCategory :=
  match c.localeFor (if ordinal then .ordinal else .plural) with
  | none => pure .other
  | some locale => do
    let operands ← Outcome.ofFault (PluralOperands.ofValue value)
    let name ← c.ask (.pluralCategory operands ordinal) locale
    return PluralCategory.ofText name

def numberSymbols (c : Context) : Outcome Number.Symbols :=
  match c.localeFor .number with
  | none => pure {}
  | some locale => c.ask .numberSymbols locale

def latinDigits : List Char := "0123456789".toList

/-- The digit of this value, for ASCII digits; other characters stay. -/
def digitIn (digits : List Char) (c : Char) : Char :=
  if c.isDigit then digits.getD (c.toNat - 48) c else c

def replaceDigits (digits : String) (text : String) : String :=
  let digits := digits.toList
  if digits.length ≠ 10 then text else String.ofList (text.toList.map (digitIn digits))

/-- The text with the digits of the locale's numbering system. -/
def transliterate (c : Context) (text : String) : Outcome String :=
  match c.localeFor .number with
  | none => pure text
  | some locale => do
    let digits ← c.ask .numberingDigits locale
    return replaceDigits digits text

end Context
end MessageFormat.Locale
