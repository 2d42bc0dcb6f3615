import MessageFormat.Proofs.Binary64
import MessageFormat.Proofs.Decimal.Places
import MessageFormat.Proofs.Plural.Operands

/-!
Plural operands of the digits that are seen. They are the parts of the value and of its places, whatever the
exponent of the decimal.
-/

set_option autoImplicit false

namespace MessageFormat

open Text

/-! Zeros at the end. -/

namespace PluralOperands

variable {s : List Char} {c : Char}

theorem dropZeros_concat (s : List Char) (c : Char) :
    dropZeros (s ++ [c]) = if c = '0' then dropZeros s else s ++ [c] := by
  unfold dropZeros
  split <;> simp [*]

theorem length_dropZeros_le (s : List Char) : (dropZeros s).length ≤ s.length := by
  have hle := (List.dropWhile_suffix (· == '0') (l := s.reverse)).length_le
  rw [List.length_reverse] at hle
  rwa [dropZeros, List.length_reverse]

/-- Each zero at the end is a power of ten. -/
theorem digitsValue_dropZeros (s : List Char) :
    digitsValue (dropZeros s) * 10 ^ (s.length - (dropZeros s).length) = digitsValue s := by
  induction s using List.reverseRecOn with
  | nil => rfl
  | append_singleton s c ih =>
    rw [dropZeros_concat]
    split
    · rename_i hc
      subst hc
      have hle := length_dropZeros_le s
      have hzero : digitsValue ['0'] = 0 := rfl
      rw [digitsValue_append, ← ih, hzero, List.length_append, List.length_singleton,
        show s.length + 1 - (dropZeros s).length = s.length - (dropZeros s).length + 1 by omega,
        Nat.pow_succ, Nat.mul_assoc, Nat.add_zero, Nat.pow_one]
    · rw [Nat.sub_self, Nat.pow_zero, Nat.mul_one]

theorem not_dvd_dropZeros (h : ∀ c ∈ s, c.isDigit = true) :
    ¬ 10 ∣ digitsValue (dropZeros s) ∨ dropZeros s = [] := by
  induction s using List.reverseRecOn with
  | nil => exact .inr rfl
  | append_singleton s c ih =>
    obtain ⟨hs, hc⟩ := List.forall_mem_append.mp h
    rw [dropZeros_concat]
    split
    · exact ih hs
    · rename_i hne
      have hdigit := hc c List.mem_cons_self
      have hvalue : digitsValue [c] = c.toNat - 48 := by
        rw [digitsValue_cons, Decimal.digitValue?_of_ascii hdigit]
        simp [digitsValue]
      have hbounds : 48 ≤ c.toNat ∧ c.toNat ≤ 57 := by
        simpa [Char.isDigit, UInt32.le_iff_toNat_le] using hdigit
      have hzero : c.toNat ≠ 48 := fun h => hne (Char.toNat_inj.mp h)
      left
      rw [digitsValue_append, hvalue, List.length_singleton, Nat.pow_one]
      omega

/-! Operands. -/

/-- What the operands say of a decimal: its magnitude, the parts before and after the point, the places,
and the same without the zeros at the end. -/
structure Describes (o : PluralOperands) (d : Decimal) : Prop where
  magnitude : o.n = d.magnitude
  places : (o.v : ℤ) = max 0 (-d.exponent)
  fraction_lt : o.f < 10 ^ o.v
  parts : o.n.value * 10 ^ o.v = o.i * 10 ^ o.v + o.f
  kept_le : o.w ≤ o.v
  kept : o.t * 10 ^ (o.v - o.w) = o.f
  ends : ¬ 10 ∣ o.t ∨ o.t = 0 ∧ o.w = 0
  sign : o.negative = true ↔ d.value < 0

variable {d : Decimal} {e : ℤ} {o : PluralOperands}

theorem eq_of_ofDecimal (h : ofDecimal d e = .ok o) :
    o = { n := d.magnitude, i := d.integerPart, v := d.positional.2.length,
          w := (dropZeros d.positional.2).length, f := digitsValue d.positional.2,
          t := digitsValue (dropZeros d.positional.2), e, negative := d.isNegative } := by
  rw [ofDecimal_eq] at h
  split at h
  · cases hl : Integer.checkLength (-d.exponent).toNat with
    | error f =>
      rw [hl] at h
      cases h
    | ok =>
      rw [hl] at h
      exact (Except.ok.inj h).symm
  · cases h

theorem isNegative_iff (d : Decimal) : d.isNegative = true ↔ d.value < 0 := by
  cases hn : d.isNegative with
  | true => exact iff_of_true rfl (Decimal.value_of_isNegative hn).2
  | false => exact iff_of_false (by simp) (not_lt.mpr (Decimal.value_of_not_isNegative hn).2)

/-- The operands of a decimal describe it. -/
theorem describes_of_ofDecimal (h : ofDecimal d e = .ok o) : o.Describes d ∧ o.e = e := by
  obtain rfl := eq_of_ofDecimal h
  refine ⟨⟨rfl, d.length_positional_snd, digitsValue_lt _, ?_, length_dropZeros_le _,
    digitsValue_dropZeros _, ?_, isNegative_iff d⟩, rfl⟩
  · have hvalue : d.magnitude.value = d.size := rfl
    dsimp only
    rw [hvalue, d.size_mul_places]
  · refine (not_dvd_dropZeros d.ascii_of_positional_snd).imp_right fun hnil => ?_
    dsimp only
    rw [hnil]
    exact ⟨rfl, rfl⟩

/-- The operands are known by the parts of a magnitude with as many places. -/
theorem Describes.parts_eq (h : o.Describes d) {whole fraction : ℕ} (hlt : fraction < 10 ^ o.v)
    (hparts : o.n.value * 10 ^ o.v = whole * 10 ^ o.v + fraction) : o.i = whole ∧ o.f = fraction := by
  have heq : o.i * 10 ^ o.v + o.f = whole * 10 ^ o.v + fraction := by
    have hq := h.parts.symm.trans hparts
    exact_mod_cast hq
  have hpos : 0 < 10 ^ o.v := Nat.pow_pos (by decide)
  have hmod := congrArg (· % 10 ^ o.v) heq
  simp only [Nat.mul_add_mod', Nat.mod_eq_of_lt h.fraction_lt, Nat.mod_eq_of_lt hlt] at hmod
  refine ⟨?_, hmod⟩
  rw [hmod] at heq
  exact Nat.eq_of_mul_eq_mul_right hpos (Nat.add_right_cancel heq)

end PluralOperands

/-! Values. -/

/-- The decimals that values are or show. Integers of too many digits show none. -/
inductive Value.Reads : Value → Decimal → Prop
  | int {n : ℤ} : n.natAbs < 10 ^ Integer.mostDigits → Reads (.int n) (.ofInt n)
  | decimal {d : Decimal} : d.holdable = true → Reads (.decimal (.finite d)) d
  | text {s : String} {p : Decimal.Spelling} :
      Decimal.Spells (trim s.toList) p → p.value.holdable = true → Reads (.text s) p.value
  | float {x : Binary64} {d : Decimal} : Decimal.read? x.compactText = some d → Reads (.float x) d

theorem Decimal.spells_intText (n : ℤ) :
    Spells (intText n) { negative := decide (n < 0), whole := natDigits n.natAbs } := by
  have hspells : ∀ {negative sign}, WritesSign negative sign →
      Spells (sign ++ (natDigits n.natAbs ++ ([] ++ []))) { negative, whole := natDigits n.natAbs } :=
    fun hs => .intro hs .absent .absent (by simp [natDigits_ne_nil])
      (by simpa using isDigit_of_natDigits)
  unfold intText
  split
  · simpa [*] using hspells .minus
  · simpa [*] using hspells .absent

theorem Decimal.holdable_ofInt {n : ℤ} (h : n.natAbs < 10 ^ Integer.mostDigits) :
    (Decimal.ofInt n).holdable = true := by
  have hlength : (Decimal.ofInt n).digitCount ≤ Integer.mostDigits :=
    (Nat.length_toDigits_le_iff (by decide) (by decide)).mpr h
  have hmost : Integer.mostDigits ≤ 4300 := le_rfl
  have hadjusted : (Decimal.ofInt n).adjusted ≤ 4300 := by
    have hexponent : (Decimal.ofInt n).exponent = 0 := rfl
    clear h
    unfold adjusted
    omega
  rw [holdable, Bool.and_eq_true, decide_eq_true_iff, decide_eq_true_iff]
  exact ⟨(by decide : leastExponent ≤ 0), hadjusted.trans (by decide)⟩

theorem Value.decimal?_of_digits? {value : Value} {s : List Char} (h : value.digits? = some s) :
    value.decimal? = Decimal.read? s := by
  rw [decimal?, h, Option.bind_some]

theorem Value.digits?_text {s : String} {p : Decimal.Spelling}
    (h : Decimal.Spells (trim s.toList) p) : (Value.text s).digits? = some (trim s.toList) := by
  simp [digits?, numericText?, h.not_mem_line, h.readFinite]

theorem Binary64.exists_spelling {x : Binary64} {d : Decimal}
    (h : Decimal.read? x.compactText = some d) : ∃ p, Decimal.Spells x.compactText p ∧ p.value = d := by
  have hblank : ∀ c ∈ x.compactText, (!isBlank c) = true :=
    x.isNumeric_compactText.all
      (fun c hc => by rw [isBlank_of_isDigit (Decimal.isDigit_of_ascii hc)]; rfl) (by decide)
  have hline : '_' ∉ x.compactText := fun hm =>
    (x.isNumeric_compactText '_' hm).elim (by decide) (by decide)
  exact Decimal.exists_spelling_of_read? (by simpa using hblank) hline h

/-- A value that shows a decimal spells it. -/
theorem Value.Reads.exists_spelling {value : Value} {d : Decimal} (h : value.Reads d) :
    ∃ s, value.digits? = some s ∧ Decimal.read? s = some d ∧ ∃ p, Decimal.Spells s p ∧ p.value = d := by
  cases h with
  | @int n hn =>
    have hspells := Decimal.spells_intText n
    have hvalue : Decimal.Spelling.value
        { negative := decide (n < 0), whole := natDigits n.natAbs } = Decimal.ofInt n := by
      simp [Decimal.Spelling.value, Decimal.ofInt, Decimal.powerOf, Decimal.digitsValue_natDigits]
    refine ⟨_, rfl, ?_, _, hspells, hvalue⟩
    rw [← hvalue]
    exact Decimal.read?_of_spells hspells (hvalue ▸ Decimal.holdable_ofInt hn)
  | decimal hd =>
    obtain ⟨p, hp, hvalue, -⟩ := d.spells_text
    exact ⟨_, rfl, Decimal.read?_text hd, p, hp, hvalue⟩
  | text hp hd => exact ⟨_, digits?_text hp, Decimal.read?_of_spells hp hd, _, hp, rfl⟩
  | float hx => exact ⟨_, rfl, hx, Binary64.exists_spelling hx⟩

theorem Value.Reads.decimal? {value : Value} {d : Decimal} (h : value.Reads d) :
    value.decimal? = some d := by
  obtain ⟨s, hs, hread, -⟩ := h.exists_spelling
  exact (Value.decimal?_of_digits? hs).trans hread

/-- Integers of few digits. -/
theorem Value.reads_int_of_lt {n : ℤ} {k : ℕ} (h : n.natAbs < 10 ^ k) (hk : k ≤ Integer.mostDigits) :
    Value.Reads (.int n) (.ofInt n) :=
  .int (h.trans_le (Nat.pow_le_pow_right (by decide) hk))

namespace PluralOperands

/-- Without an exponent the parts of a decimal are its digits as they stand. -/
theorem Describes.digits_eq {o : PluralOperands} {p : Decimal.Spelling} (h : o.Describes p.value)
    (hnone : p.exponent = none) :
    o.i = digitsValue p.whole ∧ o.f = digitsValue p.fraction ∧ o.v = p.fraction.length := by
  have hexponent : p.value.exponent = -(p.fraction.length : ℤ) := by
    simp [Decimal.Spelling.value, hnone, Decimal.powerOf]
  have hplaces : o.v = p.fraction.length := by
    have hv := h.places
    omega
  have hcoefficient : p.value.coefficient = digitsValue p.whole * 10 ^ o.v + digitsValue p.fraction := by
    rw [hplaces, ← digitsValue_append]
    rfl
  have hpow : (10 : ℚ) ^ p.value.exponent * 10 ^ o.v = 1 := by
    rw [← zpow_natCast, ← zpow_add₀ (by norm_num), hplaces, hexponent, neg_add_cancel, zpow_zero]
  have hsize : o.n.value = p.value.coefficient * 10 ^ p.value.exponent := by
    rw [h.magnitude]
    rfl
  have hparts : o.n.value * 10 ^ o.v =
      digitsValue p.whole * 10 ^ o.v + digitsValue p.fraction := by
    rw [hsize, mul_assoc, hpow, mul_one, hcoefficient]
    push_cast
    rfl
  obtain ⟨hi, hf⟩ := h.parts_eq (hplaces ▸ digitsValue_lt p.fraction) hparts
  exact ⟨hi, hf, hplaces⟩

end PluralOperands

end MessageFormat
