import MessageFormat.Decimal.Reading

/-!
Binary numbers of 53 bits: exact data, rounding of a ratio to the nearest one, and the shortest decimal
text that reads back.
-/

set_option autoImplicit false

namespace MessageFormat

/-- A finite number is `mantissa * 2 ^ exponent`, with 53 bits or the least exponent. -/
inductive Binary64 where
  | finite (negative : Bool) (mantissa : Nat) (exponent : Int)
  | infinite (negative : Bool)
  | notANumber
deriving DecidableEq, Repr

namespace Binary64

def minExponent : Int := -1074

def maxExponent : Int := 971

def bits : Nat := 53

/-- A quotient rounded to the nearest integer, a half going to the even one. -/
def nearest (num den : Nat) : Nat :=
  let q := num / den
  let r := num % den
  if 2 * r < den then q
  else if den < 2 * r then q + 1
  else q + q % 2

/-- `num / (den * 2 ^ exponent)`, rounded. -/
def scaledNearest (num den : Nat) (exponent : Int) : Nat :=
  if 0 ≤ exponent then nearest num (den * Nat.pow 2 exponent.toNat)
  else nearest (num * Nat.pow 2 exponent.natAbs) den

/-- The exponent that leaves 53 bits before the point of the scaled quotient. -/
def scaleOf (num den : Nat) : Int :=
  let guess : Int := (Nat.log2 num : Int) - Nat.log2 den - bits + 1
  let reaches :=
    if 0 ≤ guess then decide (den * Nat.pow 2 (guess.toNat + bits - 1) ≤ num)
    else decide (den * Nat.pow 2 (bits - 1) ≤ num * Nat.pow 2 guess.natAbs)
  max minExponent (if reaches then guess else guess - 1)

/-- The nearest number to a ratio. -/
def ofRatio (negative : Bool) (num den : Nat) : Binary64 :=
  if num = 0 ∨ den = 0 then .finite negative 0 minExponent
  else
    let e := scaleOf num den
    let m := scaledNearest num den e
    let (m, e) := if m = Nat.pow 2 bits then (Nat.pow 2 (bits - 1), e + 1) else (m, e)
    if maxExponent < e then .infinite negative
    else if m = 0 then .finite negative 0 minExponent
    else .finite negative m e

/-- Beyond these exponents of its first digit a decimal is infinite or zero. -/
def decimalReach : Int := 400

def ofDecimal (d : Decimal) : Binary64 :=
  if d.isZero ∨ d.adjusted < -decimalReach then .finite d.negative 0 minExponent
  else if decimalReach < d.adjusted then .infinite d.negative
  else if 0 ≤ d.exponent then ofRatio d.negative (d.coefficient * Nat.pow 10 d.exponent.toNat) 1
  else ofRatio d.negative d.coefficient (Nat.pow 10 d.exponent.natAbs)

def ofNumeral : Numeral → Binary64
  | .finite d => ofDecimal d
  | .infinite negative => .infinite negative
  | .notANumber .. => .notANumber

def read? (s : List Char) : Option Binary64 := (Numeral.read? s).map ofNumeral

/-- The magnitude as a ratio. -/
def ratio (mantissa : Nat) (exponent : Int) : Nat × Nat :=
  if 0 ≤ exponent then (mantissa * Nat.pow 2 exponent.toNat, 1) else (mantissa, Nat.pow 2 exponent.natAbs)

/-- Whole millionths of a magnitude. The fraction is multiplied in binary and then rounded, a half going to
the even neighbour. -/
def millionths (mantissa : Nat) (exponent : Int) : Nat :=
  let (num, den) := ratio mantissa exponent
  let fraction := match ofRatio false (num % den * 1000000) den with
    | .finite _ m e =>
      let (n, d) := ratio m e
      nearest n d
    | _ => 0
  num / den * 1000000 + fraction

/-- The power of ten of the first digit of a positive ratio. -/
def leadingPower (num den : Nat) : Int :=
  if den ≤ num then (Text.natDigits (num / den)).length - 1
  else -((Text.natDigits ((den - 1) / num)).length : Int)

def powerOfTenRatio (power : Int) : Nat × Nat :=
  if 0 ≤ power then (Nat.pow 10 power.toNat, 1) else (1, Nat.pow 10 power.natAbs)

/-- The nearest point of the grid `10 ^ power` that reads back as the number, if there is one. The reals
that do lie within half a unit of the number; below a power of two the unit is halved. -/
def gridHit? (mantissa : Nat) (exponent power : Int) : Option Nat :=
  let (unitNum, unitDen) := ratio 1 (exponent - 2)
  let (gridNum, gridDen) := powerOfTenRatio power
  let quarter := unitNum * gridDen
  let grid := gridNum * unitDen
  let halved := mantissa == Nat.pow 2 (bits - 1) && minExponent < exponent
  let value := 4 * mantissa * quarter
  let low := value - (if halved then quarter else 2 * quarter)
  let high := value + 2 * quarter
  let inside (g : Nat) : Bool :=
    if mantissa % 2 = 0 then low ≤ g * grid && g * grid ≤ high
    else low < g * grid && g * grid < high
  let q := value / grid
  let r := value % grid
  let candidates := if 2 * r < grid || (2 * r == grid && q % 2 == 0) then [q, q + 1] else [q + 1, q]
  candidates.find? fun g => 0 < g && inside g

/-- The fewest digits that read back, with the power of ten of the last one. -/
def shortest (mantissa : Nat) (exponent : Int) : Nat × Int :=
  let (num, den) := ratio mantissa exponent
  let lead := leadingPower num den
  let hit := (List.range 17).findSome? fun (k : Nat) =>
    (gridHit? mantissa exponent (lead - k)).map fun g => (g, lead - (k : Int))
  let (g, power) := hit.getD (num / den, 0)
  Decimal.stripZeros (Text.natDigits g).length g power

/-- Positional for first digits from 10^-4 up to 10^15, with a digit on both sides of the point; else with
an exponent of at least two digits. -/
def magnitudeText (digits : List Char) (power : Int) : List Char :=
  let point : Int := digits.length + power
  if point ≤ -4 ∨ 16 < point then
    let e := point - 1
    let shown := match digits with
      | [c] => [c]
      | c :: rest => c :: '.' :: rest
      | [] => []
    shown ++ 'e' :: (if e < 0 then '-' else '+') :: Text.padZeros 2 (Text.natDigits e.natAbs)
  else if point ≤ 0 then '0' :: '.' :: List.replicate point.natAbs '0' ++ digits
  else if 0 ≤ power then digits ++ List.replicate power.toNat '0' ++ ['.', '0']
  else digits.take point.toNat ++ '.' :: digits.drop point.toNat

/-- The shortest text that reads back. -/
def text : Binary64 → List Char
  | .notANumber => "nan".toList
  | .infinite negative => (if negative then ['-'] else []) ++ "inf".toList
  | .finite negative m e =>
    let magnitude := if m = 0 then "0.0".toList
      else magnitudeText (Text.natDigits (shortest m e).1) (shortest m e).2
    (if negative then ['-'] else []) ++ magnitude

protected def toString (x : Binary64) : String := String.ofList x.text

/-- The shortest text, without a fraction when that is zero. -/
def compactText (x : Binary64) : List Char :=
  let s := x.text
  if "0.".toList.isPrefixOf s.reverse then s.take (s.length - 2) else s

end Binary64
end MessageFormat
