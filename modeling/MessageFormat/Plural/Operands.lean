import MessageFormat.Text.Integer
import MessageFormat.Value.Basic

/-!
The numbers that plural rules are about: they come from the visible digits of a value, so `1` and `1.0`
differ. What is no finite number counts as zero.
-/

set_option autoImplicit false

namespace MessageFormat

open Text

/-- The absolute value, its integer part, the number of visible fraction digits and of those without the
zeros at the end, the fraction digits with and without these, and the written exponent. -/
structure PluralOperands where
  n : Decimal
  i : Nat
  v : Nat
  w : Nat
  f : Nat
  t : Nat
  e : Int := 0
  negative : Bool := false
deriving DecidableEq, Repr

namespace Value

/-- A sign, digits with or without a point, and perhaps an exponent. -/
def numericText? (s : List Char) : Option (List Char) :=
  let s := trim s
  if s.contains '_' then none else (Decimal.readFinite s).map fun _ => s

/-- The digits of a number as they are seen. -/
def digits? : Value → Option (List Char)
  | .int n => some (intText n)
  | .float x => some x.compactText
  | .decimal (.finite d) => some d.text
  | .text s => numericText? s.toList
  | _ => none

/-- The finite decimal that a value is or writes. -/
def decimal? (v : Value) : Option Decimal := v.digits?.bind Decimal.read?

/-- The written exponent of a numeric text. -/
def writtenExponent (s : List Char) : Except Fault Int :=
  match s.dropWhile fun c => c ≠ 'e' && c ≠ 'E' with
  | [] => .ok 0
  | _ :: r => do
    let (negative, digits) := Decimal.splitSign r
    Integer.checkLength digits.length
    return if negative then -(digitsValue digits : Int) else digitsValue digits

end Value

namespace PluralOperands

/-- The digits without the zeros at the end. -/
def dropZeros (s : List Char) : List Char := (s.reverse.dropWhile (· == '0')).reverse

/-- Fractions of more digits do not fit into memory. -/
def mostFractionDigits : Nat := 50000000000

/-- Integers of a higher exponent do not fit into memory. -/
def greatestExponent : Nat := 100000000

def fits (d : Decimal) : Bool :=
  decide (-(mostFractionDigits : Int) ≤ d.exponent) &&
    (d.isZero || decide (d.exponent ≤ greatestExponent))

/-- The operands of a decimal; a fraction has to be short enough to be read as an integer. -/
def ofDecimal (d : Decimal) (e : Int) : Except Fault PluralOperands := do
  let n := d.magnitude
  if !fits n then throw .outOfMemory
  Integer.checkLength (-n.exponent).toNat
  let fraction := if 0 ≤ n.exponent then [] else n.positional.2
  let kept := dropZeros fraction
  return {
    n, i := n.integerPart, v := fraction.length, w := kept.length, f := digitsValue fraction,
    t := digitsValue kept, e, negative := d.isNegative }

/-- Texts of infinities and of what is not a number have no exponent. -/
def exponentOf (value : Value) : Except Fault Int :=
  match value.digits? with
  | some s => if (Decimal.readFinite s).isSome then Value.writtenExponent s else .ok 0
  | none => .ok 0

def ofValue (value : Value) : Except Fault PluralOperands := do
  let e ← exponentOf value
  ofDecimal (value.decimal?.getD Decimal.zero) e

end PluralOperands
end MessageFormat
