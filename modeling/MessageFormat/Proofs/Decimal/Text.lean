import Mathlib.Data.List.TakeDrop
import MessageFormat.Proofs.Decimal.Spelling
import MessageFormat.Proofs.Text.Trim

/-!
The text of a decimal. It reads back as the decimal that it writes, with its sign, its digits and its
exponent.
-/

set_option autoImplicit false

namespace MessageFormat.Decimal

open Text

theorem natDigits_ne_nil (n : Nat) : natDigits n ≠ [] := Nat.toDigits_ne_nil

theorem digitsValue_natDigits (n : Nat) : digitsValue (natDigits n) = n := by
  rw [digitsValue_of_ascii ascii_of_natDigits, natDigits, Nat.ofDigitChars_ten_toDigits]

theorem isDigit_of_natDigits {n : ℕ} : ∀ c ∈ natDigits n, isDigit c = true :=
  fun c hc => isDigit_of_ascii (ascii_of_natDigits c hc)

/-- The sign and the digits that an exponent is written with. -/
def exponentParts (e : ℤ) : Bool × List Char := (decide (e < 0), natDigits e.natAbs)

/-- The sign of an exponent is always written. -/
theorem writesExponent_exponentText (e : ℤ) :
    WritesExponent (some (exponentParts e)) ('E' :: exponentText e) := by
  have hsign : ∀ {negative sign}, WritesSign negative sign →
      WritesExponent (some (negative, natDigits e.natAbs)) ('E' :: (sign ++ natDigits e.natAbs)) :=
    fun h => .present (.inr rfl) h (natDigits_ne_nil _) isDigit_of_natDigits
  unfold exponentText exponentParts
  split
  · simpa [*] using hsign .minus
  · simpa [*] using hsign .plus

theorem powerOf_exponentParts (e : Option ℤ) : powerOf (e.map exponentParts) = e.getD 0 := by
  cases e with
  | none => rfl
  | some e =>
    simp only [Option.map_some, Option.getD_some, exponentParts, powerOf, digitsValue_natDigits,
      decide_eq_true_eq]
    split <;> omega

theorem writesSign_signText (d : Decimal) : WritesSign d.negative d.signText := by
  unfold signText
  cases d.negative with
  | true => exact .minus
  | false => exact .absent

theorem writesFraction_of_point (fraction : List Char) :
    WritesFraction fraction (if fraction.isEmpty then [] else '.' :: fraction) := by
  cases fraction with
  | nil => exact .absent
  | cons c fraction => exact .present _

theorem digitsValue_positional {d : Decimal} (h : d.exponent ≤ 0) :
    digitsValue (d.positional.1 ++ d.positional.2) = d.coefficient := by
  obtain ⟨width, hdigits, -, -⟩ := positional_eq h
  rw [hdigits, digitsValue_padZeros]

theorem ascii_of_positional {d : Decimal} (h : d.exponent ≤ 0) :
    ∀ c ∈ d.positional.1 ++ d.positional.2, c.isDigit = true := by
  obtain ⟨width, hdigits, -, -⟩ := positional_eq h
  rw [hdigits]
  exact ascii_of_padZeros

/-- The exponent that a text shows, if it is in scientific notation. -/
def shownExponent (d : Decimal) : Option ℤ :=
  if d.exponent ≤ 0 ∧ -6 ≤ d.adjusted then none else some d.adjusted

/-- A text is a sign, digits with or without a point between them, and perhaps an exponent. -/
theorem text_eq (d : Decimal) : ∃ whole fraction,
    d.text = d.signText ++ (whole ++ (if fraction.isEmpty then [] else '.' :: fraction) ++
      d.shownExponent.elim [] fun e => 'E' :: exponentText e) ∧
    whole ≠ [] ∧ (∀ c ∈ whole ++ fraction, c.isDigit = true) ∧
    digitsValue (whole ++ fraction) = d.coefficient ∧
    d.shownExponent.getD 0 - (fraction.length : ℤ) = d.exponent := by
  unfold text shownExponent
  split
  · rename_i h
    obtain ⟨-, -, hne, hlength⟩ := positional_eq h.1
    refine ⟨d.positional.1, d.positional.2, ?_, hne, ascii_of_positional h.1, digitsValue_positional h.1, ?_⟩
    · simp [positionalText]
    · rw [Option.getD_none]
      omega
  · have hdigits : natDigits d.coefficient ≠ [] := natDigits_ne_nil _
    have hascii : ∀ c ∈ natDigits d.coefficient, c.isDigit = true := ascii_of_natDigits
    have hvalue := digitsValue_natDigits d.coefficient
    have hadjusted : d.adjusted = d.exponent + (natDigits d.coefficient).length - 1 := rfl
    cases hn : natDigits d.coefficient with
    | nil => exact absurd hn hdigits
    | cons c rest =>
      rw [hn] at hascii hvalue hadjusted
      refine ⟨[c], rest, ?_, by simp, hascii, hvalue, ?_⟩
      · cases rest <;> simp
      · rw [Option.getD_some, hadjusted, List.length_cons]
        push_cast
        omega

/-- A text spells its decimal, signs of zeros and zeros at the end included, with the exponent that it shows. -/
theorem spells_text (d : Decimal) : ∃ p, Spells d.text p ∧ p.value = d ∧
    p.exponent = d.shownExponent.map exponentParts := by
  obtain ⟨whole, fraction, htext, hne, hascii, hvalue, he⟩ := d.text_eq
  have hexponent : WritesExponent (d.shownExponent.map exponentParts)
      (d.shownExponent.elim [] fun e => 'E' :: exponentText e) := by
    cases d.shownExponent with
    | none => exact .absent
    | some e => exact writesExponent_exponentText e
  refine ⟨⟨d.negative, whole, fraction, d.shownExponent.map exponentParts⟩, ?_, ?_, rfl⟩
  · rw [htext, List.append_assoc whole]
    exact .intro d.writesSign_signText (writesFraction_of_point fraction) hexponent (by simp [hne])
      fun c hc => isDigit_of_ascii (hascii c hc)
  · simp only [Spelling.value, powerOf_exponentParts, hvalue, he]

/-- Reading a text gives back the decimal. -/
theorem readFinite_text (d : Decimal) : readFinite d.text = some d := by
  obtain ⟨p, hp, hvalue, -⟩ := d.spells_text
  rw [hp.readFinite, hvalue]

/-- What stands before the exponent, and the exponent, if one is written. -/
theorem text_parts (d : Decimal) : ∃ front exponent, d.text = front ++ exponent ∧
    (∀ c ∈ front, c.isDigit = true ∨ c ∈ ['-', '.']) ∧
    (exponent = [] ∨ exponent = 'E' :: exponentText d.adjusted) := by
  obtain ⟨whole, fraction, htext, -, hascii, -, -⟩ := d.text_eq
  refine ⟨d.signText ++ (whole ++ (if fraction.isEmpty then [] else '.' :: fraction)),
    d.shownExponent.elim [] fun e => 'E' :: exponentText e, ?_, fun c hc => ?_, ?_⟩
  · rw [htext, List.append_assoc d.signText]
  · simp only [List.mem_append] at hc
    rcases hc with hc | hc | hc
    · unfold signText at hc
      split at hc
      · exact .inr (by simp [List.mem_singleton.mp hc])
      · exact (List.not_mem_nil hc).elim
    · exact .inl (hascii c (List.mem_append_left _ hc))
    · split at hc
      · exact (List.not_mem_nil hc).elim
      · rcases List.mem_cons.mp hc with rfl | hc
        · exact .inr (by decide)
        · exact .inl (hascii c (List.mem_append_right _ hc))
  · unfold shownExponent
    split
    · exact .inl rfl
    · exact .inr rfl

/-- Signs, digits, a point and the letter of the exponent. -/
theorem mem_text {d : Decimal} : ∀ c ∈ d.text, c.isDigit = true ∨ c ∈ ['-', '+', '.', 'E'] := by
  obtain ⟨front, exponent, htext, hfront, hexponent⟩ := d.text_parts
  intro c hc
  rw [htext] at hc
  rcases List.mem_append.mp hc with hc | hc
  · exact (hfront c hc).imp_right fun h => by
      rcases List.mem_pair.mp h with rfl | rfl <;> decide
  · rcases hexponent with rfl | rfl
    · exact (List.not_mem_nil hc).elim
    · rcases List.mem_cons.mp hc with rfl | hc
      · exact .inr (by decide)
      · rcases List.mem_cons.mp hc with rfl | hc
        · right
          split <;> decide
        · exact .inl (ascii_of_natDigits c hc)

theorem of_mem_text {p : Char → Bool} (hdigit : ∀ c : Char, c.isDigit = true → p c = true)
    (hrest : ['-', '+', '.', 'E'].all p = true) {d : Decimal} : ∀ c ∈ d.text, p c = true :=
  fun c hc => (mem_text c hc).elim (hdigit c) (List.all_eq_true.mp hrest c)

theorem filter_line {s : List Char} (h : '_' ∉ s) : s.filter (· ≠ '_') = s :=
  List.filter_eq_self.mpr fun c hc => by
    rw [decide_eq_true_iff]
    rintro rfl
    exact h hc

/-- What can be held and is spelled out is read. -/
theorem read?_of_spells {s : List Char} {p : Spelling} (h : Spells s p)
    (hd : p.value.holdable = true) : read? s = some p.value := by
  rw [read?, Numeral.read?, trim_of_not_blank h.isBlank_eq_false, filter_line h.not_mem_line, h.readFinite]
  simp [hd]

/-- A decimal that can be held is what its text is read as. -/
theorem read?_text {d : Decimal} (h : d.holdable = true) : read? d.text = some d := by
  obtain ⟨p, hp, rfl, -⟩ := d.spells_text
  exact read?_of_spells hp h

/-- The names of other values are those of no finite number. -/
theorem readSpecial_ne_finite (s : List Char) (d : Decimal) :
    Numeral.readSpecial s ≠ some (.finite d) := by
  intro h
  unfold Numeral.readSpecial at h
  dsimp only at h
  split at h
  · cases h
  · split at h
    · obtain ⟨_, _, hd⟩ := Option.map_eq_some_iff.mp h
      cases hd
    · split at h
      · obtain ⟨_, _, hd⟩ := Option.map_eq_some_iff.mp h
        cases hd
      · cases h

/-- What is read as a decimal can be held. -/
theorem of_read?_eq_some {s : List Char} {d : Decimal} (h : read? s = some d) :
    d.holdable = true ∧ readFinite ((trim s).filter (· ≠ '_')) = some d := by
  rw [read?, Numeral.read?] at h
  generalize (trim s).filter (· ≠ '_') = t at h ⊢
  cases hs : readFinite t with
  | some x =>
    cases hx : x.holdable with
    | false => simp [hs, hx] at h
    | true =>
      obtain rfl : x = d := by simpa [hs, hx] using h
      exact ⟨hx, rfl⟩
  | none =>
    simp only [hs] at h
    split at h
    · rename_i x hx
      exact absurd hx (readSpecial_ne_finite _ x)
    · cases h

/-- What is read off a text without blanks and low lines is spelled out there. -/
theorem exists_spelling_of_read? {s : List Char} {d : Decimal} (hblank : ∀ c ∈ s, isBlank c = false)
    (hline : '_' ∉ s) (h : read? s = some d) : ∃ p, Spells s p ∧ p.value = d := by
  have hread := (of_read?_eq_some h).2
  rw [trim_of_not_blank hblank, filter_line hline] at hread
  exact readFinite_eq_some_iff.mp hread

end MessageFormat.Decimal
