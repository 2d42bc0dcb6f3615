import MessageFormat.Decimal.Basic

/-!
Decimal arithmetic with limits. Each operation is exact on its operands; its result is rounded half to
even to the working precision and has to fit the exponent range, or the operation signals.
-/

set_option autoImplicit false

namespace MessageFormat.Decimal

inductive Signal where
  | invalidOperation
  | divisionImpossible
  | overflow
deriving DecidableEq, Repr

abbrev Result := Except Signal Decimal

/-- Digits kept by default. -/
def defaultPrecision : Nat := 28

def maxExponent : Int := 999999

def minExponent : Int := -999999

/-- The exponent of the last digit of the smallest numbers at a precision. -/
def tinyExponent (precision : Nat) : Int := minExponent - precision + 1

/-- A quotient by a power of ten, a half going to the even neighbour. -/
def divideHalfEven (n power : Nat) : Nat :=
  let q := n / power
  let r := n % power
  if 2 * r < power then q
  else if power < 2 * r then q + 1
  else q + q % 2

/-- The coefficient at a higher exponent: `places` digits are rounded away. -/
def dropDigits (n digits places : Nat) : Nat :=
  if digits < places then 0 else divideHalfEven n (Nat.pow 10 places)

/-- The decimal with at least this exponent, rounded half to even. -/
def roundTo (d : Decimal) (exponent : Int) : Decimal :=
  if exponent ≤ d.exponent then d
  else { d with
    coefficient := dropDigits d.coefficient d.digitCount (exponent - d.exponent).toNat
    exponent := exponent }

/-- A result at a precision. A carry past the last kept digit is rounded once more. -/
def finish (d : Decimal) (precision : Nat := defaultPrecision) : Result :=
  if d.isZero then
    .ok { d with exponent := max (tinyExponent precision) (min d.exponent maxExponent) }
  else if maxExponent < d.adjusted then .error .overflow
  else
    let least := max (tinyExponent precision) (d.exponent + d.digitCount - precision)
    let r := d.roundTo least
    let r := if precision < r.digitCount then r.roundTo (r.exponent + 1) else r
    if maxExponent < r.adjusted then .error .overflow else .ok r

/-- The same value with a lower exponent. -/
def lowerTo (d : Decimal) (exponent : Int) : Decimal :=
  { d with
    coefficient := d.coefficient * Nat.pow 10 (d.exponent - exponent).toNat
    exponent := min d.exponent exponent }

/-- Where the smaller operand of a sum stops mattering: it then counts as one unit there. -/
def sumFloor (big : Decimal) : Int :=
  if defaultPrecision < big.digitCount then big.exponent - 1
  else big.exponent - 1 + big.digitCount - defaultPrecision - 1

def sumOrdered (big small : Decimal) : Decimal :=
  let small :=
    if !big.isZero && decide (small.adjusted < sumFloor big) then
      { small with coefficient := min 1 small.coefficient, exponent := sumFloor big }
    else small
  let big := if big.isZero then { big with exponent := small.exponent } else big.lowerTo small.exponent
  if big.negative = small.negative then
    ⟨big.negative, big.coefficient + small.coefficient, small.exponent⟩
  else if big.coefficient = small.coefficient then ⟨false, 0, small.exponent⟩
  else if small.coefficient < big.coefficient then
    ⟨big.negative, big.coefficient - small.coefficient, small.exponent⟩
  else ⟨small.negative, small.coefficient - big.coefficient, small.exponent⟩

def add (a b : Decimal) : Result :=
  finish (if a.exponent < b.exponent then sumOrdered b a else sumOrdered a b)

def subtract (a b : Decimal) : Result := a.add b.negated

def multiply (a b : Decimal) : Result :=
  finish ⟨a.negative != b.negative, a.coefficient * b.coefficient, a.exponent + b.exponent⟩

/-- The magnitude, rounded. -/
def absolute (d : Decimal) : Result := finish d.magnitude

/-- The negation, rounded; a zero becomes positive. -/
def minus (d : Decimal) : Result :=
  if d.isZero then finish d.magnitude else finish d.negated

/-- The shortest coefficient of the value. -/
def normalize (d : Decimal) : Result := do
  let r ← finish d
  if r.isZero then return { r with exponent := 0 }
  let room := min r.digitCount (maxExponent - r.exponent).toNat
  let (n, e) := stripZeros room r.coefficient r.exponent
  return { r with coefficient := n, exponent := e }

/-- Quotient and remainder of the magnitudes, the quotient toward zero. -/
def divideWhole (a b : Decimal) : Except Signal (Nat × Decimal) :=
  if b.isZero then .error .invalidOperation
  else if a.isZero then .ok (0, { a with exponent := min a.exponent b.exponent })
  else if a.adjusted < b.adjusted then .ok (0, a.lowerTo b.exponent)
  else if (defaultPrecision : Int) < a.adjusted - b.adjusted then .error .divisionImpossible
  else
    let low := min a.exponent b.exponent
    let n := (a.lowerTo low).coefficient
    let m := (b.lowerTo low).coefficient
    if defaultPrecision < (Text.natDigits (n / m)).length then .error .divisionImpossible
    else .ok (n / m, ⟨a.negative, n % m, low⟩)

def remainder (a b : Decimal) : Result := do
  let (_, r) ← divideWhole a b
  finish r

/-- The whole quotient, toward zero. -/
def quotient (a b : Decimal) : Result := do
  let (q, _) ← divideWhole a b
  finish ⟨a.negative != b.negative, q, 0⟩

/-- A quotient is exact with the ideal exponent when it can be, and else has all digits of the
precision. -/
def divide (a b : Decimal) : Result :=
  if b.isZero then .error .invalidOperation
  else
    let negative := a.negative != b.negative
    let ideal := a.exponent - b.exponent
    if a.isZero then finish ⟨negative, 0, ideal⟩
    else
      let shift := ((b.digitCount : Int) - a.digitCount + defaultPrecision + 1).toNat
      let n := a.coefficient * Nat.pow 10 shift
      let q := n / b.coefficient
      if n % b.coefficient = 0 then
        let (q, e) := stripZeros shift q (ideal - shift)
        finish ⟨negative, q, e⟩
      else finish ⟨negative, if q % 5 = 0 then q + 1 else q, ideal - shift⟩

/-- The value times a power of ten. -/
def scaleb (d : Decimal) (n : Int) (precision : Nat := defaultPrecision) : Result :=
  if 2 * (maxExponent + precision) < n.natAbs then .error .invalidOperation
  else finish { d with exponent := d.exponent + n } precision

/-- The value at this exponent, rounded half to even, if it fits the precision. -/
def quantize (d : Decimal) (exponent : Int) (precision : Nat := defaultPrecision) : Result :=
  if maxExponent < exponent ∨ exponent < tinyExponent precision then .error .invalidOperation
  else if d.isZero then finish { d with exponent := exponent } precision
  else if (precision : Int) < d.digitCount + (d.exponent - exponent) then .error .invalidOperation
  else
    let r := if exponent ≤ d.exponent then d.lowerTo exponent else d.roundTo exponent
    if precision < r.digitCount ∨ maxExponent < r.adjusted then .error .invalidOperation
    else finish r precision

/-- The nearest integer, a half going to the even one. -/
def toIntegral (d : Decimal) : Decimal := d.roundTo 0

/-- A power of ten as a number of at most the working precision. -/
def powerOfTen (n : Nat) : Result :=
  if maxExponent < n then .error .overflow
  else if n < defaultPrecision then .ok ⟨false, Nat.pow 10 n, 0⟩
  else .ok ⟨false, Nat.pow 10 (defaultPrecision - 1), n - (defaultPrecision - 1)⟩

end MessageFormat.Decimal
