import MessageFormat.Fault
import MessageFormat.Locale.Backend
import MessageFormat.Text.Blank

/-!
Number patterns such as `#,##0.00`: an affix, digits, an affix, and another pair of affixes for negative
numbers. A pattern says how many digits there are and how they are grouped.
-/

set_option autoImplicit false

namespace MessageFormat

open Text

structure Affixes where
  before : List Char
  after : List Char
deriving DecidableEq, Repr

structure DigitLimits where
  least : Nat := 0
  most : Nat := 0
deriving DecidableEq, Repr

/-- The first group stands next to the point; all others have the size of the second. -/
structure GroupSizes where
  first : Nat
  other : Nat
deriving DecidableEq, Repr

structure NumberPattern where
  source : List Char
  positive : Affixes
  negative : Affixes
  digits : List Char
  groups : GroupSizes
  integer : DigitLimits
  fraction : DigitLimits
  exponent : Option DigitLimits
  showsPlus : Bool
  scale : Nat
deriving DecidableEq, Repr

namespace NumberPattern

def opensDigits (c : Char) : Bool := c.isDigit || "@#.,".toList.contains c

def isDigitPart (c : Char) : Bool := opensDigits c || c == 'E' || c == '+'

/-- What stands before the digits; in quotes anything may stand there. -/
def takeAffix : Nat → List Char → List Char × List Char
  | 0, s => ([], s)
  | _ + 1, [] => ([], [])
  | fuel + 1, c :: r =>
    if c = '\'' then
      match cut '\'' r with
      | (_, none) => ([], c :: r)
      | (quoted, some r) =>
        let (affix, r) := takeAffix fuel r
        ('\'' :: quoted ++ '\'' :: affix, r)
    else if opensDigits c then ([], c :: r)
    else onto c (takeAffix fuel r)

/-- The digits and the affixes of one pattern; the last affix ends with the line. -/
def parts (s : List Char) : List Char × Affixes :=
  let (before, r) := takeAffix s.length s
  (r.takeWhile isDigitPart, ⟨before, (r.dropWhile isDigitPart).takeWhile (· ≠ '\n')⟩)

/-- Digits that must be there and digits that may be there, up to what is neither. -/
def limitsOf : List Char → DigitLimits
  | [] => {}
  | c :: r =>
    if c = '@' || c = '0' then ⟨(limitsOf r).least + 1, (limitsOf r).most + 1⟩
    else if c = '#' then { limitsOf r with most := (limitsOf r).most + 1 }
    else if c = ',' then limitsOf r
    else {}

/-- A size that no number reaches. -/
def ungrouped : Nat := 1000

def groupsOf (integer : List Char) : GroupSizes :=
  match (pieces (· == ',') integer).reverse with
  | first :: other :: _ :: _ => ⟨first.length, other.length⟩
  | [first, _] => ⟨first.length, first.length⟩
  | _ => ⟨ungrouped, ungrouped⟩

/-- The digits before the last point and those after it. -/
def splitPoint (digits : List Char) : List Char × List Char :=
  match cut '.' digits.reverse with
  | (_, none) => (digits, [])
  | (fraction, some integer) => (integer.reverse, fraction.reverse)

/-- Percentages are scaled by two places and permilles by three. -/
def scaleOf (affixes : List Char) : Nat :=
  if affixes.contains '%' then 2 else if affixes.contains '‰' then 3 else 0

def parse (source : List Char) : Except Fault NumberPattern :=
  let (positive, negative) := cut ';' source
  let (number, positive) := parts positive
  let negative := match negative with
    | some r => (parts r).2
    | none => ⟨'-' :: positive.before, positive.after⟩
  let (digits, exponent) := cut 'E' number
  let exponent := exponent.filter fun e => !e.isEmpty
  if digits.contains '@' && digits.contains '.' && digits.contains '0' then
    .error (.value "Significant digit patterns can not contain \"@\" or \"0\"")
  else
    let (integer, fraction) := splitPoint digits
    .ok {
      source, positive, negative, digits
      groups := groupsOf integer
      integer := limitsOf integer
      fraction := limitsOf fraction
      exponent := exponent.map fun e => limitsOf (e.dropWhile (· == '+'))
      showsPlus := (exponent.bind List.head?) == some '+'
      scale := scaleOf (positive.before ++ negative.before ++ positive.after ++ negative.after) }

end NumberPattern

/-- The marks that a number is written with. -/
structure NumberMarks where
  decimal : String
  group : String
  symbols : Number.Symbols := {}
deriving DecidableEq, Repr

/-- What stands for a currency: its name depends on the number. -/
structure CurrencyTexts where
  code : String
  symbol : String
  digits : Nat
  name : Decimal → Except Decimal.Signal String

namespace NumberPattern

/-- Marks between groups; a size of zero takes all that is left. -/
def grouped (mark : List Char) (other : Nat) : Nat → Nat → List Char → List Char
  | 0, _, s => s
  | fuel + 1, size, s =>
    if s.length ≤ size then s
    else if size = 0 then mark ++ s
    else
      grouped mark other fuel other (s.take (s.length - size)) ++ mark ++ s.drop (s.length - size)

def integerText (p : NumberPattern) (marks : NumberMarks) (least : Nat) (digits : List Char) :
    List Char :=
  let digits := padZeros least digits
  grouped marks.group.toList p.groups.other digits.length p.groups.first digits

/-- Fraction digits down to the least number of them, without zeros at the end. -/
def fractionText (marks : NumberMarks) (limits : DigitLimits) (digits : List Char) : List Char :=
  let digits := digits ++ List.replicate (limits.least - digits.length) '0'
  if limits.most = 0 || (limits.least == 0 && digits.all (· == '0')) then []
  else
    let optional := (digits.drop limits.least).reverse.dropWhile (· == '0')
    marks.decimal.toList ++ digits.take limits.least ++ optional.reverse

/-- A magnitude rounded to the most fraction digits; its integer part is padded and grouped together. -/
def plainText (p : NumberPattern) (marks : NumberMarks) (limits : DigitLimits) (grouping : Bool)
    (magnitude : Decimal) : Except Decimal.Signal (List Char) := do
  let rounded ← magnitude.quantize (-(limits.most : Int))
  let (whole, fraction) := rounded.positional
  let whole := if grouping then p.integerText marks p.integer.least whole else whole
  return whole ++ fractionText marks limits (if fraction.isEmpty then ['0'] else fraction)

/-- A magnitude rounded to the most significant digits: the digits of the integer and of the
fraction. -/
def significantDigits (limits : DigitLimits) (magnitude : Decimal) :
    Except Decimal.Signal (List Char × List Char) := do
  let lead := magnitude.adjusted
  let places : Int := (limits.most : Int) - 1 - lead
  let shifted ← magnitude.scaleb places
  let rounded ← shifted.quantize 0
  let digits := rounded.text
  if places ≤ 0 then return (digits ++ List.replicate places.natAbs '0', [])
  let whole := digits.take (digits.length - places.toNat)
  let kept := (digits.drop whole.length).take (limits.least - whole.length)
  let optional := ((digits.drop (whole.length + kept.length)).reverse.dropWhile (· == '0')).reverse
  let zeros := List.replicate (-(min (lead + 1) 0)).toNat '0'
  return (if whole.isEmpty then ['0'] else whole, zeros ++ kept ++ optional)

def significantText (p : NumberPattern) (marks : NumberMarks) (magnitude : Decimal) :
    Except Decimal.Signal (List Char) := do
  let (whole, fraction) ← significantDigits p.integer magnitude
  let point := if fraction.isEmpty then [] else marks.decimal.toList
  return p.integerText marks 0 whole ++ point ++ fraction

/-- The power of ten with an exponent of either sign. -/
def powerOfTen (exponent : Int) : Decimal.Result :=
  if 0 ≤ exponent then Decimal.powerOfTen exponent.toNat else .ok ⟨false, 1, exponent⟩

/-- A magnitude with as many integer digits as the pattern asks for, at least one, and the exponent that
this takes. -/
def mantissa (p : NumberPattern) (magnitude : Decimal) : Except Decimal.Signal (Decimal × Int) := do
  let lead := magnitude.adjusted
  let unit ← powerOfTen (-lead)
  let unshifted ← magnitude.multiply unit
  let shift := max 1 (min p.integer.least p.integer.most) - 1
  let power ← powerOfTen shift
  let mantissa ← unshifted.multiply power
  return (mantissa, lead - shift)

def exponentText (p : NumberPattern) (marks : NumberMarks) (limits : DigitLimits) (e : Int) :
    List Char :=
  let sign := if e < 0 then marks.symbols.minus else if p.showsPlus then marks.symbols.plus else ""
  marks.symbols.exponential.toList ++ sign.toList ++
    p.integerText marks limits.least (natDigits e.natAbs)

/-- The fraction digits that a value has of its own. -/
def naturalPlaces (d : Decimal) : Except Decimal.Signal Nat := do
  let d ← d.normalize
  return (-(min d.exponent 0)).toNat

/-- Quotes around text fall away; two of them are one. -/
def unquoted : Nat → List Char → List Char
  | 0, s => s
  | _ + 1, [] => []
  | fuel + 1, c :: r =>
    if c ≠ '\'' then c :: unquoted fuel r
    else match cut '\'' r with
      | (_, none) => c :: unquoted fuel r
      | ([], some r) => '\'' :: unquoted fuel r
      | (quoted, some r) => quoted ++ unquoted fuel r

/-- Three signs stand for the currency's name, two for its code and one for its symbol. -/
def withCurrency (currency : Option CurrencyTexts) (value : Decimal) (s : List Char) :
    Except Decimal.Signal (List Char) :=
  match currency with
  | none => .ok s
  | some currency =>
    if !s.contains '¤' then .ok s
    else do
      let name ← currency.name value
      let s := replaceAll ['¤', '¤', '¤'] name.toList s
      let s := replaceAll ['¤', '¤'] (upper currency.code.toList) s
      return replaceAll ['¤'] currency.symbol.toList s

/-- How a pattern is to be used: with the fraction digits of the currency or its own, rounded or with all
digits, grouped or not. -/
structure Use where
  currency : Option CurrencyTexts := none
  currencyDigits : Bool := true
  rounded : Bool := true
  grouping : Bool := true

/-- The limits of the fraction; digits that are not rounded away raise them. -/
def fractionLimits (p : NumberPattern) (u : Use) (value : Decimal) :
    Except Decimal.Signal DigitLimits := do
  let limits := match u.currency with
    | some c => if u.currencyDigits then ⟨c.digits, c.digits⟩ else p.fraction
    | none => p.fraction
  if u.rounded && !(p.exponent.isSome && limits == {}) then return limits
  let natural ← naturalPlaces value
  return { limits with most := max limits.most natural }

def render (p : NumberPattern) (marks : NumberMarks) (u : Use) (number : Decimal) :
    Except Decimal.Signal String := do
  let scaled ← number.scaleb p.scale
  let magnitude ← scaled.absolute
  let magnitude ← magnitude.normalize
  let (value, exponent) ← match p.exponent with
    | some _ => p.mantissa magnitude
    | none => .ok (magnitude, 0)
  let limits ← p.fractionLimits u value
  let text ← match p.exponent with
    | some e => do
      let text ← p.plainText marks limits u.grouping value
      pure (text ++ p.exponentText marks e exponent)
    | none =>
      if p.source.contains '@' then p.significantText marks value
      else p.plainText marks limits u.grouping value
  let affixes := if scaled.negative then p.negative else p.positive
  let s := affixes.before ++ (if p.digits.isEmpty then [] else text) ++ affixes.after
  let s ← withCurrency u.currency value s
  return String.ofList (unquoted s.length s)

end NumberPattern
end MessageFormat
