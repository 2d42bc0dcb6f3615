import MessageFormat.Decimal.Arithmetic
import MessageFormat.Plural.Operands
import MessageFormat.Proofs.Decimal.Text

/-!
Which numbers have plural operands. A fraction of too many digits has none, since it would be read as an
integer.
-/

set_option autoImplicit false

namespace MessageFormat

open Text

theorem Text.Integer.checkLength_eq_ok {n : Nat} (h : n ≤ Integer.mostDigits) :
    Integer.checkLength n = .ok () := if_neg (Nat.not_lt.mpr h)

theorem Text.Integer.checkLength_eq_error {n : Nat} (h : Integer.mostDigits < n) :
    Integer.checkLength n = .error (Integer.tooLong (some n)) := if_pos h

/-- The exponent of the first digit of a decimal that can be held has few digits. -/
theorem Decimal.length_adjusted_le {d : Decimal} (h : d.holdable = true) :
    (natDigits d.adjusted.natAbs).length ≤ Integer.mostDigits := by
  obtain ⟨hleast, hmost⟩ : leastExponent ≤ d.exponent ∧ d.adjusted ≤ greatestAdjusted := by
    simpa [holdable] using h
  have hpos : 0 < d.digitCount := Nat.length_toDigits_pos
  have hbound : d.adjusted.natAbs < 10 ^ 19 := by
    unfold leastExponent at hleast
    unfold greatestAdjusted at hmost
    have hle : d.exponent ≤ d.adjusted := by
      unfold adjusted
      omega
    omega
  have hlength := (Nat.length_toDigits_le_iff (b := 10) (by decide) (by decide)).mpr hbound
  exact hlength.trans (by decide)

/-- The exponent that a text of such a decimal may have. -/
theorem Decimal.exponentDigits_le {d : Decimal} {p : Spelling} (h : d.holdable = true)
    (hform : p.exponent = d.shownExponent.map exponentParts) :
    p.exponentDigits ≤ Integer.mostDigits := by
  rw [Spelling.exponentDigits, hform]
  unfold shownExponent
  split
  · exact Nat.zero_le _
  · exact length_adjusted_le h

namespace Value

/-- The exponent is what follows the letter for it, and is read as an integer. -/
theorem writtenExponent_of_spells {s : List Char} {p : Decimal.Spelling} (h : Decimal.Spells s p) :
    writtenExponent s =
      Integer.checkLength p.exponentDigits >>= fun _ => .ok (Decimal.powerOf p.exponent) := by
  have hexponent := h.writesExponent
  unfold writtenExponent
  generalize s.dropWhile (fun c => c ≠ 'e' && c ≠ 'E') = r at hexponent ⊢
  obtain ⟨negative, whole, fraction, exponent⟩ := p
  cases hexponent with
  | absent => rfl
  | @present mark sign digits negative hmark hsign hne hall =>
    have hsplit : Decimal.splitSign (sign ++ digits) = (negative, digits) :=
      Decimal.splitSign_append hsign fun c hc =>
        Decimal.ne_sign_of_isDigit (hall c (List.mem_of_mem_head? hc))
    dsimp only
    rw [hsplit]
    rfl

/-- What spells a number is a numeric text. -/
theorem numericText?_of_spells {s : List Char} {p : Decimal.Spelling} (h : Decimal.Spells s p) :
    numericText? s = some s := by
  simp [numericText?, trim_of_not_blank h.isBlank_eq_false, h.not_mem_line, h.readFinite]

end Value

namespace PluralOperands

theorem fits_eq_true_iff {d : Decimal} : fits d = true ↔
    -(mostFractionDigits : ℤ) ≤ d.exponent ∧ (d.isZero = true ∨ d.exponent ≤ greatestExponent) := by
  simp [fits]

/-- The operands of a decimal that fits into memory. -/
theorem ofDecimal_eq (d : Decimal) (e : ℤ) : ofDecimal d e =
    if fits d then Integer.checkLength (-d.exponent).toNat >>= fun _ => .ok {
      n := d.magnitude, i := d.integerPart, v := d.positional.2.length,
      w := (dropZeros d.positional.2).length, f := digitsValue d.positional.2,
      t := digitsValue (dropZeros d.positional.2), e, negative := d.isNegative }
    else .error .outOfMemory := by
  have hfraction : (if 0 ≤ d.magnitude.exponent then [] else d.magnitude.positional.2) =
      d.positional.2 := by
    split
    · rename_i he
      exact (Decimal.positional_snd_of_nonneg he).symm
    · rfl
  have hfits : fits d.magnitude = fits d := rfl
  unfold ofDecimal
  simp only [hfraction, hfits]
  cases fits d <;> rfl

/-- A decimal has no operands just if its fraction is too long, or its integer part. -/
theorem ofDecimal_fails_iff (d : Decimal) (e : ℤ) :
    (∃ f, ofDecimal d e = .error f) ↔ (Integer.mostDigits : ℤ) < -d.exponent ∨
      d.isZero = false ∧ (greatestExponent : ℤ) < d.exponent := by
  have hmost : Integer.mostDigits < mostFractionDigits := by decide
  rw [ofDecimal_eq]
  cases hf : fits d with
  | false =>
    refine iff_of_true ⟨_, rfl⟩ ?_
    have hlarge := fits_eq_true_iff.not.mp (Bool.not_eq_true _ ▸ hf)
    by_cases hz : d.isZero = true
    · simp only [hz, true_or, and_true] at hlarge
      omega
    · simp only [hz, Bool.false_eq_true, false_or] at hlarge
      simp only [Bool.not_eq_true] at hz
      simp only [hz, true_and]
      omega
  | true =>
    obtain ⟨-, hlow⟩ := fits_eq_true_iff.mp hf
    have hhigh : ¬ (d.isZero = false ∧ (greatestExponent : ℤ) < d.exponent) := by
      rintro ⟨hz, hlt⟩
      rcases hlow with hlow | hlow
      · simp [hz] at hlow
      · omega
    simp only [hhigh, or_false, if_true]
    by_cases hlong : Integer.mostDigits < (-d.exponent).toNat
    · rw [Integer.checkLength_eq_error hlong]
      exact iff_of_true ⟨_, rfl⟩ (by omega)
    · rw [Integer.checkLength_eq_ok (Nat.not_lt.mp hlong)]
      exact iff_of_false (by rintro ⟨f, h⟩; cases h) (by omega)

/-- What arithmetic gives is never too large. -/
theorem ofDecimal_eq_error_iff {d : Decimal} (e : ℤ) (h : d.adjusted ≤ Decimal.maxExponent) :
    (∃ f, ofDecimal d e = .error f) ↔ (Integer.mostDigits : ℤ) < -d.exponent := by
  have hle : d.exponent ≤ d.adjusted := by
    have hpos : 0 < d.digitCount := Nat.length_toDigits_pos
    unfold Decimal.adjusted
    omega
  have hmost : ¬ (greatestExponent : ℤ) < d.exponent := by
    unfold Decimal.maxExponent at h
    unfold greatestExponent
    omega
  rw [ofDecimal_fails_iff]
  simp only [hmost, and_false, or_false]

/-- The operands of a value are those of the decimal that it shows, with the exponent that it writes. -/
theorem ofValue_of_spells {value : Value} {s : List Char} {p : Decimal.Spelling}
    (hs : value.digits? = some s) (hp : Decimal.Spells s p) :
    ofValue value = Integer.checkLength p.exponentDigits >>= fun _ =>
      ofDecimal (value.decimal?.getD Decimal.zero) (Decimal.powerOf p.exponent) := by
  have hexponent : exponentOf value =
      Integer.checkLength p.exponentDigits >>= fun _ => .ok (Decimal.powerOf p.exponent) := by
    simp only [exponentOf, hs, hp.readFinite]
    exact Value.writtenExponent_of_spells hp
  rw [ofValue, hexponent]
  cases Integer.checkLength p.exponentDigits <;> rfl

/-- The operands of a decimal have the exponent that its text shows. -/
theorem ofValue_decimal {d : Decimal} (h : d.holdable = true) :
    ofValue (.decimal (.finite d)) = ofDecimal d (d.shownExponent.getD 0) := by
  obtain ⟨p, hp, -, hform⟩ := d.spells_text
  have hread : (Value.decimal (.finite d)).decimal? = some d := Decimal.read?_text h
  rw [ofValue_of_spells rfl hp, hread, Integer.checkLength_eq_ok (Decimal.exponentDigits_le h hform), hform,
    Decimal.powerOf_exponentParts]
  rfl

/-- A decimal has no operands just if its fraction is too long. -/
theorem ofValue_eq_error_iff {d : Decimal} (hd : d.holdable = true)
    (h : d.adjusted ≤ Decimal.maxExponent) :
    (∃ f, ofValue (.decimal (.finite d)) = .error f) ↔ (Integer.mostDigits : ℤ) < -d.exponent := by
  rw [ofValue_decimal hd, ofDecimal_eq_error_iff _ h]

end PluralOperands
end MessageFormat
