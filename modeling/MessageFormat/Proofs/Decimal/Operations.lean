import MessageFormat.Proofs.Decimal.Kept

/-!
Where the operations on decimals signal. Products overflow, quotients have too many digits, and nothing that
only moves or rounds digits within the exponent range overflows.
-/

set_option autoImplicit false

namespace MessageFormat.Decimal

open Text

theorem defaultPrecision_pos : 0 < defaultPrecision := by decide

theorem size_mul (negative : Bool) (a b : Decimal) :
    size ⟨negative, a.coefficient * b.coefficient, a.exponent + b.exponent⟩ = a.size * b.size := by
  simp only [size]
  rw [zpow_add₀ (by norm_num)]
  push_cast
  ring

theorem multiply_eq_error_iff {a b : Decimal} {s : Signal} : a.multiply b = .error s ↔
    s = .overflow ∧ overflowBound defaultPrecision ≤ a.size * b.size := by
  rw [multiply, finish_eq_error_iff defaultPrecision_pos, size_mul]

theorem threshold_le_multiply_iff {a b r : Decimal} {e : ℤ} (h : a.multiply b = .ok r)
    (he : tinyExponent defaultPrecision ≤ e) :
    threshold defaultPrecision e ≤ r.size ↔ threshold defaultPrecision e ≤ a.size * b.size := by
  rw [threshold_le_finish_iff defaultPrecision_pos he h, size_mul]

theorem threshold_add (precision : Nat) (e : ℤ) (n : Nat) :
    threshold precision (e + n) = threshold precision e * 10 ^ n := by
  rw [threshold, threshold, zpow_add₀ (by norm_num), zpow_natCast]
  ring

/-! Powers of ten and quotients. -/

theorem powerOfTen_eq_error {n : Nat} (h : maxExponent < n) : powerOfTen n = .error .overflow :=
  if_pos h

theorem digitCount_pow_le (negative : Bool) (k : Nat) (e : ℤ) :
    (⟨negative, Nat.pow 10 k, e⟩ : Decimal).digitCount ≤ k + 1 :=
  (digitCount_le_iff (Nat.succ_pos k)).mpr (Nat.pow_lt_pow_right (by decide) (Nat.lt_succ_self k))

theorem fits_pow {precision k : Nat} {e : ℤ} (he : tinyExponent precision ≤ e) (hk : k < precision)
    (hmost : e + k ≤ maxExponent) : (⟨false, Nat.pow 10 k, e⟩ : Decimal).Fits precision := by
  have hcount := digitCount_pow_le false k e
  refine ⟨he, ?_, hcount.trans hk⟩
  unfold adjusted
  dsimp only
  omega

theorem powerOfTen_eq_ok {n : Nat} (h : (n : ℤ) ≤ maxExponent) :
    ∃ b, powerOfTen n = .ok b ∧ b.size = 10 ^ n ∧ b.isZero = false ∧ b.Fits := by
  have hpow (m : Nat) : (Nat.pow 10 m == 0) = false := by simp
  have htiny := tinyExponent_neg defaultPrecision
  unfold powerOfTen
  rw [if_neg (by omega)]
  split
  · rename_i hn
    exact ⟨_, rfl, by simp [size], hpow n, fits_pow htiny.le hn (by omega)⟩
  · rename_i hn
    have hsum : n = (defaultPrecision - 1) + (n - (defaultPrecision - 1)) := by omega
    have hexp : (n : ℤ) - ((defaultPrecision : ℤ) - 1) = (n - (defaultPrecision - 1) : ℕ) := by
      unfold defaultPrecision at *
      omega
    have hpos := defaultPrecision_pos
    refine ⟨_, rfl, ?_, hpow _, fits_pow (by omega) (by omega) (by omega)⟩
    rw [size, hexp, zpow_natCast]
    conv_rhs => rw [hsum, pow_add]
    push_cast
    rfl

theorem size_lowerTo (d : Decimal) (e : ℤ) : (d.lowerTo e).size = d.size := by
  rcases le_total e d.exponent with h | h
  · rw [← size_aligned d h, size, lowerTo]
    dsimp only
    rw [min_eq_right h]
  · have hzero : (d.exponent - e).toNat = 0 := by omega
    simp [lowerTo, hzero, size, min_eq_left h]

theorem digitCount_pos (d : Decimal) : 0 < d.digitCount := Nat.length_toDigits_pos

theorem digitCount_mono {a b : Decimal} (h : a.coefficient ≤ b.coefficient) : a.digitCount ≤ b.digitCount :=
  (digitCount_le_iff b.digitCount_pos).mpr (h.trans_lt b.coefficient_lt)

/-- The magnitude of `a` is so many times that of `b` and a smaller rest, and the rest has no more digits than
one of the two. -/
structure Divides (a b : Decimal) (q : Nat) (r : Decimal) : Prop where
  size_eq : a.size = q * b.size + r.size
  lt : r.size < b.size
  exponent : r.exponent = min a.exponent b.exponent
  digits : r.digitCount ≤ max a.digitCount b.digitCount

section Divides

variable {a b : Decimal}

theorem divides_zero (ha : a.isZero = true) (hb : b.isZero = false) :
    Divides a b 0 { a with exponent := min a.exponent b.exponent } := by
  have hsize : size { a with exponent := min a.exponent b.exponent } = 0 := size_of_isZero ha
  exact ⟨by rw [size_of_isZero ha, hsize, Nat.cast_zero, zero_mul, zero_add], by
    rw [hsize]
    exact size_pos hb, rfl, le_max_left _ _⟩

/-- What is smaller is the rest. -/
theorem divides_of_lt (h : a.size < b.size) : Divides a b 0 (a.lowerTo b.exponent) := by
  refine ⟨by rw [size_lowerTo, Nat.cast_zero, zero_mul, zero_add], by rwa [size_lowerTo], rfl, ?_⟩
  rcases le_total a.exponent b.exponent with he | he
  · have hshift : (a.exponent - b.exponent).toNat = 0 := by omega
    refine le_max_of_le_left (digitCount_mono ?_)
    rw [lowerTo, hshift, Nat.pow_eq, pow_zero, Nat.mul_one]
  · refine le_max_of_le_right (digitCount_mono ?_)
    have hexponent : (a.lowerTo b.exponent).exponent = b.exponent := min_eq_right he
    rw [← size_lowerTo a b.exponent, size, size, hexponent, mul_lt_mul_iff_left₀ (by positivity)] at h
    exact_mod_cast h.le

/-- Two whole numbers of the lower of the two units are divided. -/
theorem divides_aligned (hb : b.isZero = false) {low : ℤ} (hlow : low = min a.exponent b.exponent) :
    0 < (b.lowerTo low).coefficient ∧
      Divides a b ((a.lowerTo low).coefficient / (b.lowerTo low).coefficient)
        ⟨a.negative, (a.lowerTo low).coefficient % (b.lowerTo low).coefficient, low⟩ := by
  have hunit : (0 : ℚ) < 10 ^ low := by positivity
  have hn : ((a.lowerTo low).coefficient : ℚ) * 10 ^ low = a.size := size_aligned a (by omega)
  have hm : ((b.lowerTo low).coefficient : ℚ) * 10 ^ low = b.size := size_aligned b (by omega)
  have hpos : 0 < (b.lowerTo low).coefficient := by
    have hbpos := size_pos hb
    rw [← hm] at hbpos
    exact_mod_cast (mul_pos_iff_of_pos_right hunit).mp hbpos
  have ha' (h : low = a.exponent) : (a.lowerTo low).coefficient = a.coefficient := by
    simp [lowerTo, h]
  have hb' (h : low = b.exponent) : (b.lowerTo low).coefficient = b.coefficient := by
    simp [lowerTo, h]
  generalize (a.lowerTo low).coefficient = n at *
  generalize (b.lowerTo low).coefficient = m at *
  have hdiv : (n : ℚ) = (n / m : ℕ) * m + (n % m : ℕ) := by
    exact_mod_cast (Nat.div_add_mod' n m).symm
  refine ⟨hpos, ?_, ?_, hlow, ?_⟩
  · rw [← hn, ← hm, size, ← mul_assoc, ← add_mul]
    exact congrArg (· * (10 : ℚ) ^ low) hdiv
  · rw [← hm]
    exact mul_lt_mul_of_pos_right (by exact_mod_cast Nat.mod_lt n hpos) hunit
  · rcases min_choice a.exponent b.exponent with h | h
    · exact le_max_of_le_left (digitCount_mono ((Nat.mod_le n m).trans_eq (ha' (hlow.trans h))))
    · exact le_max_of_le_right (digitCount_mono ((Nat.mod_lt n hpos).le.trans_eq (hb' (hlow.trans h))))

/-- A quotient is found just if its integer part has no more digits than the precision. -/
theorem divideWhole_spec (hb : b.isZero = false) :
    (10 ^ defaultPrecision * b.size ≤ a.size ∧ divideWhole a b = .error .divisionImpossible) ∨
    (a.size < 10 ^ defaultPrecision * b.size ∧
      ∃ q r, divideWhole a b = .ok (q, r) ∧ Divides a b q r) := by
  have hbpos := size_pos hb
  have hbig : b.size ≤ 10 ^ defaultPrecision * b.size :=
    le_mul_of_one_le_left hbpos.le (one_le_pow₀ (by norm_num))
  unfold divideWhole
  rw [if_neg (by simp [hb])]
  split
  · rename_i hz
    exact .inr ⟨by rw [size_of_isZero hz]; positivity, _, _, rfl, divides_zero hz hb⟩
  rename_i hz
  have hz' : a.isZero = false := by simpa using hz
  split
  · rename_i hlt
    have hsize := size_lt_of_adjusted hz' hb hlt
    exact .inr ⟨hsize.trans_le hbig, _, _, rfl, divides_of_lt hsize⟩
  · split
    · rename_i hle hlt
      left
      refine ⟨?_, rfl⟩
      have ha := (size_bounds hz').1
      have hb' := (size_bounds hb).2
      have hmono : (10 : ℚ) ^ (defaultPrecision + (b.adjusted + 1)) ≤ 10 ^ a.adjusted :=
        zpow_le_zpow_right₀ (by norm_num) (by omega)
      rw [zpow_add₀ (by norm_num), zpow_natCast] at hmono
      have hstep : (10 : ℚ) ^ defaultPrecision * b.size ≤
          10 ^ defaultPrecision * 10 ^ (b.adjusted + 1) :=
        mul_le_mul_of_nonneg_left hb'.le (by positivity)
      linarith
    · dsimp only
      obtain ⟨hmpos, hdivides⟩ := divides_aligned (a := a) hb rfl
      have hunit : (0 : ℚ) < 10 ^ min a.exponent b.exponent := by positivity
      have hn : ((a.lowerTo (min a.exponent b.exponent)).coefficient : ℚ) * _ = _ :=
        size_aligned a (min_le_left a.exponent b.exponent)
      have hm : ((b.lowerTo (min a.exponent b.exponent)).coefficient : ℚ) * _ = _ :=
        size_aligned b (min_le_right a.exponent b.exponent)
      generalize (a.lowerTo (min a.exponent b.exponent)).coefficient = n at *
      generalize (b.lowerTo (min a.exponent b.exponent)).coefficient = m at *
      have hcount : defaultPrecision < (natDigits (n / m)).length ↔
          10 ^ defaultPrecision * b.size ≤ a.size := by
        rw [← Nat.not_le, natDigits, Nat.length_toDigits_le_iff (by decide) (by decide), Nat.not_lt,
          Nat.le_div_iff_mul_le hmpos, ← hn, ← hm, ← mul_assoc, mul_le_mul_iff_left₀ hunit]
        exact_mod_cast Iff.rfl
      split
      · rename_i hlong
        exact .inl ⟨hcount.mp hlong, rfl⟩
      · rename_i hshort
        exact .inr ⟨lt_of_not_ge (mt hcount.mpr hshort), _, _, rfl, hdivides⟩

/-- The rest has the sign of what is divided. -/
theorem negative_of_divideWhole {q : Nat} {r : Decimal} (h : divideWhole a b = .ok (q, r)) :
    r.negative = a.negative := by
  unfold divideWhole at h
  dsimp only at h
  split_ifs at h <;> cases h <;> rfl

theorem Divides.fits {q : Nat} {r : Decimal} {precision : Nat} (h : Divides a b q r)
    (ha : a.Fits precision) (hb : b.Fits precision) (hz : b.isZero = false) : r.Fits precision := by
  obtain ⟨haexponent, -, hadigits⟩ := ha
  obtain ⟨hbexponent, hbadjusted, hbdigits⟩ := hb
  refine ⟨?_, ?_, h.digits.trans (max_le hadigits hbdigits)⟩
  · rw [h.exponent]
    exact le_min haexponent hbexponent
  · refine le_trans ?_ hbadjusted
    by_cases hr : r.isZero = true
    · have hpos := b.digitCount_pos
      rw [adjusted_of_isZero hr, h.exponent]
      unfold adjusted
      omega
    · by_contra hlt
      exact lt_asymm h.lt (size_lt_of_adjusted hz (by simpa using hr) (Int.not_le.mp hlt))

/-- Nothing of a remainder is lost. -/
theorem divides_of_remainder {r : Decimal} (ha : a.Fits) (hb : b.Fits) (hz : b.isZero = false)
    (h : a.remainder b = .ok r) : ∃ q, Divides a b q r := by
  unfold remainder at h
  rcases divideWhole_spec (a := a) hz with ⟨-, herror⟩ | ⟨-, q, r', hok, hdivides⟩
  · rw [herror] at h
    cases h
  · rw [hok] at h
    change finish r' = .ok r at h
    rw [(hdivides.fits ha hb hz).finish_eq defaultPrecision_pos] at h
    exact ⟨q, Except.ok.inj h ▸ hdivides⟩

end Divides

/-- Remainders under a power of ten. -/
theorem remainder_powerOfTen_eq_error_iff {a b : Decimal} {n : Nat} {s : Signal}
    (hn : (n : ℤ) ≤ maxExponent) (hsize : b.size = 10 ^ n) (hb : b.isZero = false) :
    a.remainder b = .error s ↔ s = .divisionImpossible ∧ 10 ^ (defaultPrecision + n) ≤ a.size := by
  rw [pow_add, ← hsize, remainder]
  rcases divideWhole_spec (a := a) hb with ⟨hle, herror⟩ | ⟨hlt, q, r, hok, hdivides⟩
  · rw [herror]
    simp [Bind.bind, Except.bind, hle, eq_comm]
  · rw [hok]
    change finish r = .error s ↔ _
    rw [finish_eq_error_iff defaultPrecision_pos]
    have hr := hdivides.lt
    have hbound : (10 : ℚ) ^ n < overflowBound defaultPrecision := by
      have hmono : (10 : ℚ) ^ n ≤ 10 ^ maxExponent := by
        rw [← zpow_natCast]
        exact zpow_le_zpow_right₀ (by norm_num) hn
      exact hmono.trans_lt (lt_overflowBound defaultPrecision_pos)
    constructor
    · rintro ⟨-, h⟩
      linarith
    · rintro ⟨-, h⟩
      linarith

/-! Operations that move or round digits. -/

/-- What fits the precision and the exponent range is a result as it is. -/
theorem finish_of_fits {d : Decimal} {precision : Nat} (hp : 0 < precision)
    (hc : d.digitCount ≤ precision) (ha : d.adjusted ≤ maxExponent) :
    ∃ r, finish d precision = .ok r := by
  cases h : finish d precision with
  | ok r => exact ⟨r, rfl⟩
  | error s =>
    obtain ⟨-, hbound⟩ := (finish_eq_error_iff hp).mp h
    by_cases hz : d.isZero = true
    · rw [size_of_isZero hz] at hbound
      exact absurd hbound (not_le.mpr (threshold_pos _ _))
    · have hlt := (overflowBound_le_iff (by simpa using hz) hc).mp hbound
      omega

/-- Rounding at an exponent is refused or fits. -/
theorem quantize_spec {d : Decimal} {e : ℤ} {precision : Nat} (hp : 0 < precision) :
    d.quantize e precision = .error .invalidOperation ∨
      ∃ r, d.quantize e precision = .ok r ∧ r.adjusted ≤ maxExponent := by
  have hfits {x : Decimal} (h : ∃ r, finish x precision = .ok r) :
      ∃ r, finish x precision = .ok r ∧ r.adjusted ≤ maxExponent := by
    obtain ⟨r, hr⟩ := h
    exact ⟨r, hr, (range_of_finish hp hr).1⟩
  unfold quantize
  split
  · exact .inl rfl
  rename_i he
  split
  · rename_i hz
    have hz' : ({ d with exponent := e } : Decimal).isZero = true := hz
    refine .inr (hfits (finish_of_fits hp ?_ ?_))
    · rw [digitCount, isZero_iff.mp hz']
      exact hp
    · rw [adjusted_of_isZero hz']
      dsimp only
      omega
  split
  · exact .inl rfl
  generalize (if e ≤ d.exponent then d.lowerTo e else d.roundTo e) = r
  dsimp only
  split
  · exact .inl rfl
  · exact .inr (hfits (finish_of_fits hp (by omega) (by omega)))

/-- A power of ten is moved without overflow if it is at most the greatest. -/
theorem scaleb_one {n : ℤ} {precision : Nat} (hp : 0 < precision) (hn : n ≤ maxExponent) :
    one.scaleb n precision = .error .invalidOperation ∨ ∃ r, one.scaleb n precision = .ok r := by
  unfold scaleb
  split
  · exact .inl rfl
  · have hdigits : (natDigits 1).length = 1 := by decide
    have hcount : digitCount { one with exponent := one.exponent + n } = 1 := hdigits
    refine .inr (finish_of_fits hp (hcount.trans_le hp) ?_)
    rw [adjusted, hcount]
    simp only [one, ofNat]
    omega

end MessageFormat.Decimal
