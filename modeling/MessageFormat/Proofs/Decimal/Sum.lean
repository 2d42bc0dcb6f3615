import MessageFormat.Proofs.Decimal.Rounding

/-!
Sums and differences. Where one operand is far below the other, one unit is added or taken away in its
place; what comes out is the exact sum all the same, rounded once.
-/

set_option autoImplicit false

namespace MessageFormat.Decimal

open Text

/-- Coefficients over one exponent, with their signs. A sum of zero is negative just if both are. -/
def combine (s : Bool) (m : Nat) (t : Bool) (n : Nat) (e : Int) : Decimal :=
  if s = t then ⟨s, m + n, e⟩
  else if m = n then ⟨false, 0, e⟩
  else if n < m then ⟨s, m - n, e⟩
  else ⟨t, n - m, e⟩

/-- The coefficient in units of a lower power of ten. -/
def units (d : Decimal) (low : Int) : Nat := d.coefficient * 10 ^ (d.exponent - low).toNat

/-- The exact sum, with all places of both. -/
def sum (a b : Decimal) : Decimal :=
  let low := min a.exponent b.exponent
  combine a.negative (a.units low) b.negative (b.units low) low

theorem combine_comm (s : Bool) (m : Nat) (t : Bool) (n : Nat) (e : Int) :
    combine s m t n e = combine t n s m e := by
  unfold combine
  by_cases hst : s = t
  · simp [hst, Nat.add_comm]
  · have hts : ¬ t = s := fun h => hst h.symm
    rcases Nat.lt_trichotomy m n with h | h | h
    · simp [hst, hts, h, h.ne, h.ne', Nat.lt_asymm h]
    · simp [hst, hts, h]
    · simp [hst, hts, h, h.ne, h.ne', Nat.lt_asymm h]

theorem sum_comm (a b : Decimal) : a.sum b = b.sum a := by
  rw [sum, sum, min_comm, combine_comm]

theorem value_combine (s : Bool) (m : Nat) (t : Bool) (n : Nat) (e : Int) :
    (combine s m t n e).value = value ⟨s, m, e⟩ + value ⟨t, n, e⟩ := by
  unfold combine
  by_cases hst : s = t
  · subst hst
    cases s <;> simp [value, size] <;> ring
  · obtain rfl : t = !s := by cases s <;> cases t <;> simp_all
    rcases Nat.lt_trichotomy m n with h | rfl | h
    · have hsub : ((n - m : ℕ) : ℚ) = n - m := Nat.cast_sub h.le
      cases s <;> simp [value, size, h.ne, Nat.lt_asymm h, hsub] <;> ring
    · cases s <;> simp [value, size]
    · have hsub : ((m - n : ℕ) : ℚ) = m - n := Nat.cast_sub h.le
      cases s <;> simp [value, size, h.ne', h, hsub] <;> ring

theorem value_units (d : Decimal) {low : ℤ} (h : low ≤ d.exponent) :
    value ⟨d.negative, d.units low, low⟩ = d.value := by
  have hsize : size ⟨d.negative, d.units low, low⟩ = d.size := size_aligned d h
  rw [value, value, hsize]

theorem value_sum (a b : Decimal) : (a.sum b).value = a.value + b.value := by
  rw [sum, value_combine, value_units a (min_le_left _ _), value_units b (min_le_right _ _)]

theorem exponent_sum (a b : Decimal) : (a.sum b).exponent = min a.exponent b.exponent := by
  simp only [sum, combine]
  split_ifs <;> rfl

/-! Rounding a sum. -/

theorem digitCount_eq {d : Decimal} {n : Nat} (hlow : 10 ^ n ≤ d.coefficient)
    (hhigh : d.coefficient < 10 ^ (n + 1)) : d.digitCount = n + 1 := by
  have hle := (digitCount_le_iff (d := d) n.succ_pos).mpr hhigh
  refine le_antisymm hle (Nat.succ_le_of_lt (Nat.lt_of_not_le fun hcount => ?_))
  rcases Nat.eq_zero_or_pos n with rfl | hn
  · have hpos : 0 < d.digitCount := Nat.length_toDigits_pos
    omega
  · exact absurd ((digitCount_le_iff hn).mp hcount) (Nat.not_lt.mpr hlow)

theorem digitCount_bounds {d : Decimal} {n : Nat} (h : d.digitCount = n + 1) (hd : d.isZero = false) :
    10 ^ n ≤ d.coefficient ∧ d.coefficient < 10 ^ (n + 1) := by
  have hle := le_coefficient hd
  rw [h, Nat.add_sub_cancel] at hle
  exact ⟨hle, (digitCount_le_iff n.succ_pos).mp h.le⟩

/-- `s` stands for `t`, which has `m` further digits: they are the same with zeros for these digits, or `t`
lies strictly inside the step from or to a multiple of ten that `s` ends. -/
inductive StandsFor (s m : Nat) : Nat → Prop
  | same : StandsFor s m (s * 10 ^ m)
  | above {q y : Nat} (hs : s = q + 1) (hq : 10 ∣ q) (hy : 0 < y) (hm : y < 10 ^ m) :
      StandsFor s m (q * 10 ^ m + y)
  | below {y : Nat} (hs : 10 ∣ s + 1) (hy : 0 < y) (hm : y < 10 ^ m) : StandsFor s m (s * 10 ^ m + y)

/-- A quotient and a remainder decide how it is rounded. -/
theorem divideHalfEven_eq_of_iff {a b p p' : Nat} (hq : a / p = b / p')
    (hlt : 2 * (a % p) < p ↔ 2 * (b % p') < p') (hgt : p < 2 * (a % p) ↔ p' < 2 * (b % p')) :
    divideHalfEven a p = divideHalfEven b p' := by
  unfold divideHalfEven
  simp only [hq, hlt, hgt]

/-- A rest below a unit does not reach the half, and one digit stands for it: after the digit zero it counts as
one, and after the digit nine as nothing. -/
theorem compare_half (half r : Nat) {unit y last digit : Nat} (hy : 0 < y) (hunit : y < unit)
    (hdigit : last = 0 ∧ digit = 1 ∨ last = 9 ∧ digit = 9) :
    (2 * (y + unit * (10 * r + last)) < unit * (10 * half) ↔ 2 * (10 * r + digit) < 10 * half) ∧
    (unit * (10 * half) < 2 * (y + unit * (10 * r + last)) ↔ 10 * half < 2 * (10 * r + digit)) := by
  have hlast : unit * (10 * r + last) = 10 * (unit * r) + last * unit := by ring
  have hhalf : unit * (10 * half) = 10 * (unit * half) := by ring
  rw [hlast, hhalf]
  rcases Nat.lt_or_ge (2 * r + last / 9) half with h | h
  · have hle := Nat.mul_le_mul_left unit (Nat.succ_le_of_lt h)
    have hexpand : unit * (2 * r + last / 9).succ = 2 * (unit * r) + last / 9 * unit + unit := by
      rw [Nat.succ_eq_add_one]
      ring
    rcases hdigit with ⟨rfl, rfl⟩ | ⟨rfl, rfl⟩ <;> omega
  · have hle := Nat.mul_le_mul_left unit h
    have hexpand : unit * (2 * r + last / 9) = 2 * (unit * r) + last / 9 * unit := by ring
    rcases hdigit with ⟨rfl, rfl⟩ | ⟨rfl, rfl⟩ <;> omega

/-- Where digits are rounded away, what stands for a coefficient is rounded as the coefficient is. -/
theorem StandsFor.divideHalfEven_eq {s m t k : Nat} (h : StandsFor s m t) (hk : 0 < k) :
    divideHalfEven t (10 ^ (k + m)) = divideHalfEven s (10 ^ k) := by
  obtain ⟨k, rfl⟩ : ∃ n, k = n + 1 := ⟨k - 1, by omega⟩
  have hunit : 0 < 10 ^ m := by positivity
  have hpower : 0 < 10 ^ (k + 1) := by positivity
  have hpow : 10 ^ (k + 1 + m) = 10 ^ m * 10 ^ (k + 1) := by ring
  have hten : 10 ^ (k + 1) = 10 * 10 ^ k := by ring
  -- quotient and remainder of units and a rest
  have hdiv (q y : Nat) (hy : y < 10 ^ m) :
      (q * 10 ^ m + y) / (10 ^ m * 10 ^ (k + 1)) = q / 10 ^ (k + 1) := by
    rw [← Nat.div_div_eq_div_mul, Nat.mul_comm q, Nat.mul_add_div hunit, Nat.div_eq_of_lt hy, Nat.add_zero]
  have hmod (q y : Nat) (hy : y < 10 ^ m) :
      (q * 10 ^ m + y) % (10 ^ m * 10 ^ (k + 1)) = y + 10 ^ m * (q % 10 ^ (k + 1)) := by
    rw [Nat.mod_mul, Nat.mul_comm q, Nat.mul_add_mod, Nat.mod_eq_of_lt hy, Nat.mul_add_div hunit,
      Nat.div_eq_of_lt hy, Nat.add_zero]
  rw [hpow]
  cases h with
  | same =>
    have hsame := hmod s 0 hunit
    have hquot := hdiv s 0 hunit
    rw [Nat.add_zero] at hsame hquot
    refine divideHalfEven_eq_of_iff hquot ?_ ?_ <;>
      rw [hsame, Nat.zero_add, Nat.mul_left_comm, Nat.mul_lt_mul_left hunit]
  | @above q y hs hq hy hm =>
    subst hs
    obtain ⟨r, hr⟩ : ∃ r, q % 10 ^ (k + 1) = 10 * r := by
      obtain ⟨j, rfl⟩ := hq
      exact ⟨j % 10 ^ k, by rw [hten, Nat.mul_mod_mul_left]⟩
    have hlt : 10 * r < 10 * 10 ^ k := hr ▸ hten ▸ Nat.mod_lt q hpower
    have hstep : (q + 1) % 10 ^ (k + 1) = 10 * r + 1 := by
      rw [Nat.add_mod, hr, Nat.mod_eq_of_lt (a := 1) (by omega), Nat.mod_eq_of_lt (by omega)]
    have hquot : q / 10 ^ (k + 1) = (q + 1) / 10 ^ (k + 1) := by
      have h₁ := Nat.div_add_mod q (10 ^ (k + 1))
      have h₂ := Nat.div_add_mod (q + 1) (10 ^ (k + 1))
      rw [hr] at h₁
      rw [hstep] at h₂
      exact Nat.eq_of_mul_eq_mul_left hpower (by omega)
    obtain ⟨hbelow, habove⟩ := compare_half (10 ^ k) r hy hm (.inl ⟨rfl, rfl⟩)
    refine divideHalfEven_eq_of_iff ((hdiv q y hm).trans hquot) ?_ ?_ <;>
      rwa [hmod q y hm, hstep, hr, hten]
  | @below y hs hy hm =>
    obtain ⟨r, hr⟩ : ∃ r, s % 10 ^ (k + 1) = 10 * r + 9 := by
      refine ⟨s % 10 ^ (k + 1) / 10, ?_⟩
      have hlast : s % 10 ^ (k + 1) % 10 = s % 10 := Nat.mod_mod_of_dvd s ⟨10 ^ k, hten⟩
      omega
    obtain ⟨hbelow, habove⟩ := compare_half (10 ^ k) r hy hm (.inr ⟨rfl, rfl⟩)
    refine divideHalfEven_eq_of_iff (hdiv s y hm) ?_ ?_ <;>
      rwa [hmod s y hm, hr, hten]

/-- What stands for a coefficient is between the same powers of ten. -/
theorem StandsFor.bounds {s m t n : Nat} (h : StandsFor s m t) (hn : 0 < n) (hlow : 10 ^ n ≤ s)
    (hhigh : s < 10 ^ (n + 1)) : 10 ^ (n + m) ≤ t ∧ t < 10 ^ (n + m + 1) := by
  have hpow : 10 ^ (n + m + 1) = 10 ^ (n + 1) * 10 ^ m := by ring
  rw [hpow, Nat.pow_add]
  cases h with
  | same =>
    exact ⟨Nat.mul_le_mul_right _ hlow, Nat.mul_lt_mul_of_pos_right hhigh (by positivity)⟩
  | @above q y hs hq hy hm =>
    -- no multiple of ten lies right below a power of ten
    have hne : q + 1 ≠ 10 ^ n := fun heq => by
      have hdvd : 10 ∣ 10 ^ n := dvd_pow_self 10 hn.ne'
      omega
    have hle : 10 ^ n * 10 ^ m ≤ q * 10 ^ m := Nat.mul_le_mul_right _ (by omega)
    have hlt : (q + 1) * 10 ^ m ≤ 10 ^ (n + 1) * 10 ^ m := Nat.mul_le_mul_right _ (by omega)
    rw [Nat.succ_mul] at hlt
    omega
  | @below y hs hy hm =>
    have hle : 10 ^ n * 10 ^ m ≤ s * 10 ^ m := Nat.mul_le_mul_right _ hlow
    have hlt : (s + 1) * 10 ^ m ≤ 10 ^ (n + 1) * 10 ^ m := Nat.mul_le_mul_right _ hhigh
    rw [Nat.succ_mul] at hlt
    omega

/-- Nothing is lost by a coefficient that stands for another one, if it has more digits than are kept. -/
theorem finish_of_standsFor {negative : Bool} {s m t precision : Nat} {e : ℤ} (h : StandsFor s m t)
    (hp : 0 < precision) (hs : 10 ^ precision ≤ s) :
    finish ⟨negative, t, e - m⟩ precision = finish ⟨negative, s, e⟩ precision := by
  have hspos : s ≠ 0 := fun hzero => by simp [hzero] at hs
  have hsz : (⟨negative, s, e⟩ : Decimal).isZero = false := by simpa [isZero] using hspos
  obtain ⟨n, hn⟩ : ∃ n, (⟨negative, s, e⟩ : Decimal).digitCount = n + 1 :=
    ⟨_, (Nat.succ_pred_eq_of_pos Nat.length_toDigits_pos).symm⟩
  have hlong : precision < (⟨negative, s, e⟩ : Decimal).digitCount := by
    rw [← Nat.not_le, digitCount_le_iff hp]
    exact Nat.not_lt.mpr hs
  obtain ⟨hlow, hhigh⟩ := digitCount_bounds hn hsz
  obtain ⟨hlow', hhigh'⟩ := h.bounds (n := n) (by omega) hlow hhigh
  have hn' : (⟨negative, t, e - m⟩ : Decimal).digitCount = n + m + 1 := digitCount_eq hlow' hhigh'
  have htz : (⟨negative, t, e - m⟩ : Decimal).isZero = false := by
    have hpos : 0 < 10 ^ (n + m) := by positivity
    have hne : t ≠ 0 := by omega
    simpa [isZero] using hne
  have hadjusted : (⟨negative, t, e - m⟩ : Decimal).adjusted = (⟨negative, s, e⟩ : Decimal).adjusted := by
    simp only [adjusted, hn, hn']
    omega
  have hleast : (⟨negative, t, e - m⟩ : Decimal).leastKept precision =
      (⟨negative, s, e⟩ : Decimal).leastKept precision := by
    simp only [leastKept, hn, hn']
    congr 1
    omega
  have hbelow : e < (⟨negative, s, e⟩ : Decimal).leastKept precision := by
    rw [leastKept]
    refine lt_max_of_lt_right ?_
    dsimp only
    omega
  have hround : (⟨negative, t, e - m⟩ : Decimal).roundTo ((⟨negative, s, e⟩ : Decimal).leastKept precision) =
      (⟨negative, s, e⟩ : Decimal).roundTo ((⟨negative, s, e⟩ : Decimal).leastKept precision) := by
    generalize (⟨negative, s, e⟩ : Decimal).leastKept precision = l at hbelow
    obtain ⟨k, rfl⟩ : ∃ k : ℕ, l = e + k := ⟨(l - e).toNat, by omega⟩
    have hcoefficient := h.divideHalfEven_eq (k := k) (by omega)
    rw [roundTo, roundTo, if_neg (by dsimp only; omega), if_neg (by dsimp only; omega)]
    dsimp only
    rw [show (e + k - (e - m)).toNat = k + m by omega, show (e + k - e).toNat = k by omega,
      show dropDigits t _ (k + m) = _ from dropDigits_eq (coefficient_lt ⟨negative, t, e - m⟩) _,
      show dropDigits s _ k = _ from dropDigits_eq (coefficient_lt ⟨negative, s, e⟩) _, hcoefficient]
  have hsame : (⟨negative, t, e - m⟩ : Decimal).rounded precision =
      (⟨negative, s, e⟩ : Decimal).rounded precision := by
    rw [rounded, rounded, hleast, hround]
  have hfinish (d : Decimal) (hd : d.isZero = false) : finish d precision =
      if maxExponent < d.adjusted then .error .overflow
      else if maxExponent < (d.rounded precision).adjusted then .error .overflow
      else .ok (d.rounded precision) := by
    rw [finish, if_neg (by simp [hd])]
    rfl
  rw [hfinish _ htz, hfinish _ hsz, hadjusted, hsame]

/-! Sums. -/

/-- Signed coefficients of which the second is none, or below the last digit of the first. -/
theorem finish_combine {m n k : Nat} {s t : Bool} {e : ℤ} (hm : 10 * 10 ^ defaultPrecision ≤ m)
    (hten : 10 ∣ m) (hn : n < 10 ^ k) :
    finish (combine s (m * 10 ^ k) t n (e - k)) = finish (combine s m t (min 1 n) e) := by
  have hp : 0 < defaultPrecision := by decide
  have hpos : 0 < 10 ^ defaultPrecision := by positivity
  have hle : m ≤ m * 10 ^ k := Nat.le_mul_of_pos_right m (by positivity)
  have hunit : 10 ^ k ≤ m * 10 ^ k := Nat.le_mul_of_pos_left (10 ^ k) (by omega)
  rcases Nat.eq_zero_or_pos n with rfl | hn0
  · have hsame {c : Nat} (hc : 0 < c) (e : ℤ) : combine s c t 0 e = ⟨s, c, e⟩ := by
      rw [combine]
      split_ifs <;> first | rfl | omega
    rw [Nat.min_zero, hsame (by omega), hsame (by omega)]
    exact finish_of_standsFor .same hp (by omega)
  · have hone : min 1 n = 1 := Nat.min_eq_left hn0
    rw [hone, combine, combine]
    by_cases hst : s = t
    · rw [if_pos hst, if_pos hst]
      exact finish_of_standsFor (.above rfl hten hn0 hn) hp (by omega)
    · have hne : m * 10 ^ k ≠ n := by omega
      have hlt : n < m * 10 ^ k := by omega
      have hne' : m ≠ 1 := by omega
      have hlt' : 1 < m := by omega
      simp only [if_neg hst, if_neg hne, if_neg hne', if_pos hlt, if_pos hlt']
      have hstands : StandsFor (m - 1) k (m * 10 ^ k - n) := by
        have hsplit : m * 10 ^ k - n = (m - 1) * 10 ^ k + (10 ^ k - n) := by
          rw [Nat.sub_mul, Nat.one_mul]
          omega
        rw [hsplit]
        exact .below (by rwa [Nat.sub_add_cancel (by omega)]) (by omega) (by omega)
      exact finish_of_standsFor hstands hp (by omega)

/-- An operand that reaches below the floor of the other has fewer digits than the step there. -/
theorem coefficient_lt_of_adjusted {d : Decimal} {e : ℤ} (h : d.adjusted < e) :
    d.exponent < e ∧ d.coefficient < 10 ^ (e - d.exponent).toNat := by
  have hpos : 0 < d.digitCount := Nat.length_toDigits_pos
  unfold adjusted at h
  refine ⟨by omega, d.coefficient_lt.trans_le (Nat.pow_le_pow_right (by decide) (by omega))⟩

/-- Down to its floor an operand has digits to spare. -/
theorem units_sumFloor {big : Decimal} (h : big.isZero = false) :
    sumFloor big < big.exponent ∧ 10 * 10 ^ defaultPrecision ≤ big.units (sumFloor big) ∧
      10 ∣ big.units (sumFloor big) := by
  have hlow := le_coefficient h
  have hpos : 0 < big.digitCount := Nat.length_toDigits_pos
  have hfloor : 1 ≤ (big.exponent - sumFloor big).toNat ∧
      defaultPrecision + 1 ≤ big.digitCount - 1 + (big.exponent - sumFloor big).toNat := by
    unfold sumFloor
    split <;> omega
  refine ⟨by omega, ?_, Dvd.dvd.mul_left (dvd_pow_self 10 (by omega)) _⟩
  calc 10 * 10 ^ defaultPrecision = 10 ^ (defaultPrecision + 1) := by ring
    _ ≤ 10 ^ (big.digitCount - 1 + (big.exponent - sumFloor big).toNat) :=
      Nat.pow_le_pow_right (by decide) hfloor.2
    _ ≤ big.units (sumFloor big) := by
      rw [Nat.pow_add]
      exact Nat.mul_le_mul_right _ hlow

/-- The signed coefficients at the lower exponent. -/
theorem sumOrdered_eq (big small : Decimal) : sumOrdered big small =
    if big.isZero = false ∧ small.adjusted < sumFloor big then
      combine big.negative (big.units (sumFloor big)) small.negative (min 1 small.coefficient)
        (sumFloor big)
    else combine big.negative (big.units small.exponent) small.negative small.coefficient
      small.exponent := by
  unfold sumOrdered combine
  cases hz : big.isZero with
  | true =>
    have hunits : big.units small.exponent = 0 := by rw [units, isZero_iff.mp hz, Nat.zero_mul]
    simp [hunits, isZero_iff.mp hz]
  | false =>
    by_cases hfar : small.adjusted < sumFloor big
    · simp [hfar, units, lowerTo]
    · simp [hfar, units, lowerTo]
      rfl

theorem finish_sumOrdered {big small : Decimal} (h : small.exponent ≤ big.exponent) :
    finish (sumOrdered big small) = finish (big.sum small) := by
  have hsmall : small.units small.exponent = small.coefficient := by simp [units]
  have hsum : big.sum small = combine big.negative (big.units small.exponent) small.negative
      small.coefficient small.exponent := by
    simp only [sum, min_eq_right h, hsmall]
  rw [sumOrdered_eq, hsum]
  split
  · rename_i hfar
    obtain ⟨hz, hfar⟩ := hfar
    obtain ⟨hfloor, hlong, hten⟩ := units_sumFloor hz
    obtain ⟨hlt, hcoefficient⟩ := coefficient_lt_of_adjusted hfar
    obtain ⟨k, hk⟩ : ∃ k : ℕ, small.exponent = sumFloor big - k :=
      ⟨(sumFloor big - small.exponent).toNat, by omega⟩
    have hunits : big.units small.exponent = big.units (sumFloor big) * 10 ^ k := by
      rw [units, units, Nat.mul_assoc, ← Nat.pow_add]
      congr 2
      omega
    rw [hunits, hk]
    refine (finish_combine hlong hten ?_).symm
    rwa [show (sumFloor big - small.exponent).toNat = k by omega] at hcoefficient
  · rfl

/-- Addition gives the exact sum, rounded once. -/
theorem add_eq (a b : Decimal) : a.add b = finish (a.sum b) := by
  unfold add
  split
  · rename_i h
    rw [finish_sumOrdered h.le, sum_comm]
  · rename_i h
    rw [finish_sumOrdered (not_lt.mp h)]

/-- The exact difference, with all places of both. -/
def difference (a b : Decimal) : Decimal := a.sum b.negated

theorem subtract_eq (a b : Decimal) : a.subtract b = finish (a.difference b) := add_eq a b.negated

theorem value_negated (d : Decimal) : d.negated.value = -d.value := by
  have hsize : d.negated.size = d.size := rfl
  cases hn : d.negative <;> simp [value, negated, hn] <;> exact hsize

theorem value_difference (a b : Decimal) : (a.difference b).value = a.value - b.value := by
  rw [difference, value_sum, value_negated, sub_eq_add_neg]

theorem exponent_difference (a b : Decimal) :
    (a.difference b).exponent = min a.exponent b.exponent := exponent_sum a b.negated

end MessageFormat.Decimal
