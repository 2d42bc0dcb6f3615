import MessageFormat.Decimal.Basic

/-!
What a number is to look like: notation, signs, grouping, digit limits, currency and unit.
-/

set_option autoImplicit false

namespace MessageFormat.Number

inductive Notation where
  | standard | scientific | engineering | compactShort | compactLong
deriving DecidableEq, Repr

def Notation.text : Notation → String
  | .standard => "standard"
  | .scientific => "scientific"
  | .engineering => "engineering"
  | .compactShort => "compact-short"
  | .compactLong => "compact-long"

/-- Exponents are written out in these notations. -/
def Notation.isScientific (n : Notation) : Bool := n == .scientific || n == .engineering

inductive SignDisplay where
  | auto | always | never | exceptZero | accounting | accountingAlways | accountingExceptZero
deriving DecidableEq, Repr

def SignDisplay.text : SignDisplay → String
  | .auto => "auto"
  | .always => "always"
  | .never => "never"
  | .exceptZero => "except-zero"
  | .accounting => "accounting"
  | .accountingAlways => "accounting-always"
  | .accountingExceptZero => "accounting-except-zero"

/-- Negative amounts stand in parentheses. -/
def SignDisplay.isAccounting : SignDisplay → Bool
  | .accounting | .accountingAlways | .accountingExceptZero => true
  | _ => false

inductive Grouping where
  | off | min2 | auto | always | onAligned
deriving DecidableEq, Repr

def Grouping.text : Grouping → String
  | .off => "off"
  | .min2 => "min2"
  | .auto => "auto"
  | .always => "always"
  | .onAligned => "on-aligned"

inductive UnitWidth where
  | narrow | short | fullName | isoCode
deriving DecidableEq, Repr

def UnitWidth.text : UnitWidth → String
  | .narrow => "narrow"
  | .short => "short"
  | .fullName => "full-name"
  | .isoCode => "iso-code"

def UnitWidth.all : List UnitWidth := [.narrow, .short, .fullName, .isoCode]

inductive CurrencyDisplay where
  | symbol | narrowSymbol | code | name
deriving DecidableEq, Repr

def CurrencyDisplay.text : CurrencyDisplay → String
  | .symbol => "symbol"
  | .narrowSymbol => "narrow-symbol"
  | .code => "code"
  | .name => "name"

def CurrencyDisplay.all : List CurrencyDisplay := [.symbol, .narrowSymbol, .code, .name]

/-- Where digit limits came from. -/
inductive PrecisionSource where
  | locale | skeleton | pattern
deriving DecidableEq, Repr

def PrecisionSource.text : PrecisionSource → String
  | .locale => "default"
  | .skeleton => "skeleton"
  | .pattern => "pattern"

structure Spec where
  form : Notation := .standard
  sign : SignDisplay := .auto
  grouping : Grouping := .auto
  minInteger : Nat := 1
  maxInteger : Option Nat := none
  minFraction : Option Nat := none
  maxFraction : Option Nat := none
  minSignificant : Option Nat := none
  maxSignificant : Option Nat := none
  scale : Decimal := Decimal.one
  percent : Bool := false
  permille : Bool := false
  ordinal : Bool := false
  currency : Option String := none
  currencyDisplay : CurrencyDisplay := .symbol
  unit : Option String := none
  unitWidth : UnitWidth := .short
  pattern : Option String := none
  precision : PrecisionSource := .locale
  unrecognized : List String := []
deriving DecidableEq, Repr

namespace Spec

def hasFractionLimits (s : Spec) : Bool := s.minFraction.isSome || s.maxFraction.isSome

def hasSignificantLimits (s : Spec) : Bool := s.maxSignificant.isSome

/-- Every field but the unrecognized tokens has its default value; a scale is compared by value. -/
def isPlain (s : Spec) : Bool :=
  s.scale.sameValue Decimal.one &&
    { s with scale := Decimal.one, unrecognized := [] } == ({} : Spec)

/-- There were tokens, and none of them was understood. -/
def isLiteralFallback (s : Spec) : Bool := !s.unrecognized.isEmpty && s.isPlain

end Spec
end MessageFormat.Number
