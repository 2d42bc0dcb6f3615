import Mathlib.Data.List.Basic
import MessageFormat.Decimal.Basic

/-!
Positional notation of decimals. The digits write the coefficient and the places the exponent.
-/

set_option autoImplicit false

namespace MessageFormat.Decimal

open Text

theorem digitValue?_of_ascii {c : Char} (h : c.isDigit = true) :
    digitValue? c = some (c.toNat - 48) := by
  have hc : '0' ≤ c ∧ c ≤ '9' := by
    simpa [Char.isDigit, Char.le_def, UInt32.le_iff_toNat_le] using h
  simp [digitValue?, hc]

theorem isDigit_of_ascii {c : Char} (h : c.isDigit = true) : isDigit c = true := by
  simp [isDigit, digitValue?_of_ascii h]

theorem digitsValue_of_ascii {s : List Char} (h : ∀ c ∈ s, c.isDigit = true) :
    digitsValue s = Nat.ofDigitChars 10 s 0 := by
  rw [digitsValue, Nat.ofDigitChars_eq_foldl]
  refine List.foldl_ext _ _ 0 fun n c hc => ?_
  rw [digitValue?_of_ascii (h c hc)]
  rfl

theorem ascii_of_natDigits {n : Nat} : ∀ c ∈ natDigits n, c.isDigit = true :=
  fun _ hc => Nat.isDigit_of_mem_toDigits (by decide) (by decide) hc

theorem ascii_of_padZeros {width n : Nat} : ∀ c ∈ padZeros width (natDigits n), c.isDigit = true := by
  intro c hc
  rcases List.mem_append.mp hc with hc | hc
  · rw [List.eq_of_mem_replicate hc]
    rfl
  · exact ascii_of_natDigits c hc

/-- Zeros in front change no value. -/
theorem digitsValue_padZeros (width n : Nat) : digitsValue (padZeros width (natDigits n)) = n := by
  rw [digitsValue_of_ascii ascii_of_padZeros, padZeros, Nat.ofDigitChars_append,
    Nat.ofDigitChars_replicate_zero, Nat.mul_zero, natDigits, Nat.ofDigitChars_ten_toDigits]

theorem padZeros_zero (s : List Char) : padZeros 0 s = s := by simp [padZeros]

theorem length_padZeros (width : Nat) (s : List Char) :
    (padZeros width s).length = max width s.length := by
  simp only [padZeros, List.length_append, List.length_replicate]
  omega

/-- The digits of a decimal with places, and how many of them are places. -/
theorem positional_eq {d : Decimal} (h : d.exponent ≤ 0) :
    ∃ width, d.positional.1 ++ d.positional.2 = padZeros width (natDigits d.coefficient) ∧
      d.positional.1 ≠ [] ∧ d.positional.2.length = d.exponent.natAbs := by
  by_cases he : d.exponent = 0
  · have hn : natDigits d.coefficient ≠ [] := Nat.toDigits_ne_nil
    refine ⟨0, ?_⟩
    by_cases hz : d.coefficient = 0
    · simp [positional, isZero, he, hz, padZeros_zero]
      rfl
    · simp [positional, isZero, he, hz, padZeros_zero, hn]
  · have hneg : ¬ 0 ≤ d.exponent := by omega
    have hl := length_padZeros (d.exponent.natAbs + 1) (natDigits d.coefficient)
    refine ⟨d.exponent.natAbs + 1, ?_⟩
    simp only [positional, hneg, if_false, List.take_append_drop, List.length_drop, true_and]
    refine ⟨fun ht => ?_, by omega⟩
    have ht' := congrArg List.length ht
    simp only [List.length_take, List.length_nil] at ht'
    omega

theorem positional_snd_of_nonneg {d : Decimal} (h : 0 ≤ d.exponent) : d.positional.2 = [] := by
  simp [positional, h]

end MessageFormat.Decimal
