import MessageFormat.Proofs.Plural.Operands

/-!
Decimals as arguments. They are taken by their texts, in positional or in scientific notation, and nothing of them is
lost on that way.
-/

set_option autoImplicit false

namespace MessageFormat.Value

open Decimal (Spells powerOf)

/-- For every decimal, zeros of both signs included, with any digits and any exponent. Its text is a numeric one, and
the number that it spells is the decimal itself, with the same sign, coefficient and exponent. A decimal that can be
held is read back from its text, and its operands have the exponent that is spelled there: that of the first digit,
where the exponent is above zero or the first digit stands more than six places after the point, and else none. -/
theorem decimal_reads_back (d : Decimal) :
    numericText? d.text = some d.text ∧ (∃ p, Spells d.text p) ∧
    (∀ p, Spells d.text p → p.value = d ∧
      powerOf p.exponent = if d.exponent ≤ 0 ∧ -6 ≤ d.adjusted then 0 else d.adjusted) ∧
    (d.holdable = true → (Value.decimal (.finite d)).decimal? = some d ∧
      ∀ p, Spells d.text p → PluralOperands.ofValue (.decimal (.finite d)) =
        PluralOperands.ofDecimal d (powerOf p.exponent)) := by
  obtain ⟨p, hp, -, hform⟩ := d.spells_text
  have hpower : powerOf p.exponent = d.shownExponent.getD 0 := by rw [hform, Decimal.powerOf_exponentParts]
  have hshown : d.shownExponent.getD 0 = if d.exponent ≤ 0 ∧ -6 ≤ d.adjusted then 0 else d.adjusted := by
    unfold Decimal.shownExponent
    split <;> rfl
  refine ⟨numericText?_of_spells hp, ⟨p, hp⟩, fun q hq => ⟨?_, ?_⟩, fun h => ⟨Decimal.read?_text h, fun q hq => ?_⟩⟩
  · have hread := hq.readFinite
    rw [Decimal.readFinite_text] at hread
    exact (Option.some.inj hread).symm
  · rw [hq.powerOf_eq hp, hpower, hshown]
  · rw [hq.powerOf_eq hp, hpower, PluralOperands.ofValue_decimal h]

/-- A negative zero whose only digit is too far after the point. -/
theorem decimal_reads_back_zero : Decimal.text ⟨true, 0, -7⟩ = "-0E-7".toList ∧
    Decimal.holdable ⟨true, 0, -7⟩ = true ∧
    (Value.decimal (.finite ⟨true, 0, -7⟩)).decimal? = some ⟨true, 0, -7⟩ ∧
    PluralOperands.ofValue (.decimal (.finite ⟨true, 0, -7⟩)) =
      .ok { n := ⟨false, 0, -7⟩, i := 0, v := 7, w := 0, f := 0, t := 0, e := -7 } := by
  obtain ⟨-, ⟨p, hp⟩, hall, hheld⟩ := decimal_reads_back ⟨true, 0, -7⟩
  have hholdable : Decimal.holdable ⟨true, 0, -7⟩ = true := by decide
  obtain ⟨hread, hoperands⟩ := hheld hholdable
  have hpower : powerOf p.exponent = -7 := (hall p hp).2.trans (by decide)
  refine ⟨by decide +kernel, hholdable, hread, ?_⟩
  rw [hoperands p hp, hpower]
  decide +kernel

end MessageFormat.Value
