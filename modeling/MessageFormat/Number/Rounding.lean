import MessageFormat.Decimal.Arithmetic

/-!
Rounding to a number of fraction digits or of significant digits, a half going to the even neighbour.
-/

set_option autoImplicit false

namespace MessageFormat.Number

/-- Digits enough for the rounded value, and no fewer than by default. -/
def roundingPrecision (value : Decimal) (places : Int) : Nat :=
  max Decimal.defaultPrecision (value.adjusted + places + 2).toNat

/-- Rounded to this many fraction digits; a negative number of them rounds the integer part. -/
def roundPlaces (value : Decimal) (places : Int) : Decimal.Result := do
  let precision := roundingPrecision value places
  let unit ← Decimal.one.scaleb (-places) precision
  value.quantize unit.exponent precision

/-- A rounded value and the fraction digits to show. -/
structure Rounded where
  value : Decimal
  minFraction : Nat
  maxFraction : Nat
deriving DecidableEq, Repr

/-- Rounded to at most `most` significant digits; at least `least` are shown. -/
def roundSignificant (value : Decimal) (least most : Nat) : Except Decimal.Signal Rounded :=
  if value.isZero then .ok ⟨Decimal.zero, least - 1, least - 1⟩
  else do
    let places := (most : Int) - value.adjusted - 1
    let rounded ← roundPlaces value places
    let rounded ← if places < 0 then roundPlaces rounded 0 else .ok rounded
    let minFraction := (least - rounded.adjusted - 1 : Int).toNat
    return ⟨rounded, minFraction, max minFraction places.toNat⟩

end MessageFormat.Number
