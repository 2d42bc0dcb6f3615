import MessageFormat.Text.Letter

/-!
Decimal numbers as data: a sign, a coefficient and an exponent. `1.50` and `1.5` have one value but are
two decimals, and so are `0` and `-0`.
-/

set_option autoImplicit false

namespace MessageFormat

structure Decimal where
  negative : Bool
  coefficient : Nat
  exponent : Int
deriving DecidableEq, Repr, Inhabited

namespace Decimal

def ofNat (n : Nat) : Decimal := ⟨false, n, 0⟩

def ofInt (n : Int) : Decimal := ⟨n < 0, n.natAbs, 0⟩

def zero : Decimal := ofNat 0

def one : Decimal := ofNat 1

def isZero (d : Decimal) : Bool := d.coefficient == 0

def magnitude (d : Decimal) : Decimal := { d with negative := false }

def negated (d : Decimal) : Decimal := { d with negative := !d.negative }

/-- How many digits the coefficient is written with; zero has one. -/
def digitCount (d : Decimal) : Nat := (Text.natDigits d.coefficient).length

/-- The exponent of the first digit of the coefficient. -/
def adjusted (d : Decimal) : Int := d.exponent + d.digitCount - 1

/-- The sign of the value: a zero has none. -/
def isNegative (d : Decimal) : Bool := d.negative && !d.isZero

/-- Order of two magnitudes; only magnitudes of one size have their coefficients aligned. -/
def compareMagnitude (a b : Decimal) : Ordering :=
  if a.isZero || b.isZero then compare a.coefficient b.coefficient
  else if a.adjusted ≠ b.adjusted then compare a.adjusted b.adjusted
  else
    let low := min a.exponent b.exponent
    compare (a.coefficient * Nat.pow 10 (a.exponent - low).toNat)
      (b.coefficient * Nat.pow 10 (b.exponent - low).toNat)

/-- Order of values. -/
protected def compare (a b : Decimal) : Ordering :=
  match a.isNegative, b.isNegative with
  | true, false => .lt
  | false, true => .gt
  | false, false => compareMagnitude a b
  | true, true => compareMagnitude b a

def sameValue (a b : Decimal) : Bool := a.compare b == .eq

/-- The integer part of the magnitude. -/
def integerPart (d : Decimal) : Nat :=
  if d.isZero then 0
  else if 0 ≤ d.exponent then d.coefficient * Nat.pow 10 d.exponent.toNat
  else if d.digitCount < d.exponent.natAbs then 0
  else d.coefficient / Nat.pow 10 d.exponent.natAbs

/-- The digits before the point and those after it. -/
def positional (d : Decimal) : List Char × List Char :=
  let digits := Text.natDigits d.coefficient
  if 0 ≤ d.exponent then
    (if d.isZero then ['0'] else digits ++ List.replicate d.exponent.toNat '0', [])
  else
    let places := d.exponent.natAbs
    let padded := Text.padZeros (places + 1) digits
    (padded.take (padded.length - places), padded.drop (padded.length - places))

def signText (d : Decimal) : List Char := if d.negative then ['-'] else []

/-- Positional notation, whatever the exponent. -/
def positionalText (d : Decimal) : List Char :=
  let (whole, fraction) := d.positional
  d.signText ++ whole ++ (if fraction.isEmpty then [] else '.' :: fraction)

/-- An exponent with its sign always written. -/
def exponentText (e : Int) : List Char :=
  (if e < 0 then '-' else '+') :: Text.natDigits e.natAbs

/-- Positional notation for exponents up to zero and at most six places between the point and the first
digit, else one digit before the point and an exponent. -/
def text (d : Decimal) : List Char :=
  if d.exponent ≤ 0 ∧ -6 ≤ d.adjusted then d.positionalText
  else
    match Text.natDigits d.coefficient with
    | [] => []
    | [c] => d.signText ++ c :: 'E' :: exponentText d.adjusted
    | c :: rest => d.signText ++ c :: '.' :: rest ++ 'E' :: exponentText d.adjusted

protected def toString (d : Decimal) : String := String.ofList d.text

instance : ToString Decimal := ⟨Decimal.toString⟩

/-- Zeros at the end of a coefficient go into the exponent, at most `room` of them. -/
def stripZeros : Nat → Nat → Int → Nat × Int
  | 0, n, e => (n, e)
  | room + 1, n, e => if n % 10 = 0 then stripZeros room (n / 10) (e + 1) else (n, e)

end Decimal
end MessageFormat
