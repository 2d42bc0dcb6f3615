import Mathlib.Algebra.Ring.Nat
import MessageFormat.Text.Blank
import MessageFormat.Text.Letter

/-!
Blanks, and the digits of all scripts. No character is both.
-/

set_option autoImplicit false

namespace MessageFormat.Text

/-- The numbers of the blank characters. -/
def blankCodes : List Nat :=
  [9, 10, 11, 12, 13, 28, 29, 30, 31, 32, 0x85, 0xA0, 0x1680, 0x2000, 0x2001, 0x2002, 0x2003,
   0x2004, 0x2005, 0x2006, 0x2007, 0x2008, 0x2009, 0x200A, 0x2028, 0x2029, 0x202F, 0x205F, 0x3000]

theorem mem_blankCodes {c : Char} (h : isBlank c = true) : c.toNat ∈ blankCodes := by
  simp only [isBlank, Bool.or_eq_true, Bool.and_eq_true, decide_eq_true_eq, beq_iff_eq] at h
  simp only [blankCodes, List.mem_cons, List.not_mem_nil, or_false]
  omega

/-- What holds of the blank characters one by one holds of all. -/
theorem of_isBlank {p : Char → Bool} (hp : ∀ n ∈ blankCodes, p (Char.ofNat n) = true) {c : Char}
    (h : isBlank c = true) : p c = true := by
  have hc := hp c.toNat (mem_blankCodes h)
  rwa [Char.ofNat_toNat] at hc

theorem isNameChar_of_isBlank {c : Char} (h : isBlank c = true) : isNameChar c = false := by
  have hb := of_isBlank (p := fun c => !isNameChar c) (by decide +kernel) h
  simpa using hb

theorem isDigit_of_isBlank {c : Char} (h : isBlank c = true) : isDigit c = false := by
  have hb := of_isBlank (p := fun c => !isDigit c) (by decide) h
  simpa using hb

theorem isBlank_of_isDigit {c : Char} (h : isDigit c = true) : isBlank c = false := by
  cases hb : isBlank c with
  | false => rfl
  | true => simp [isDigit_of_isBlank hb] at h

theorem ne_of_isDigit {c d : Char} (hc : isDigit c = true) (hd : isDigit d = false) : c ≠ d := by
  intro h
  subst h
  simp [hd] at hc

/-- A digit of any script is one of ten. -/
theorem lt_of_digitValue? {c : Char} {n : Nat} (h : digitValue? c = some n) : n < 10 := by
  unfold digitValue? at h
  split at h
  · rename_i hc
    have hle : c.toNat ≤ 57 := by
      simp only [Bool.and_eq_true, decide_eq_true_eq, Char.le_def, UInt32.le_iff_toNat_le] at hc
      exact hc.2
    obtain rfl := Option.some.inj h
    omega
  · split at h
    · cases h
    · obtain ⟨z, hz, rfl⟩ := Option.map_eq_some_iff.mp h
      have hrange := List.find?_some hz
      simp only [Bool.and_eq_true, decide_eq_true_eq] at hrange
      omega

theorem digitsValue_foldl (s : List Char) (n : Nat) :
    s.foldl (fun n c => 10 * n + (digitValue? c).getD 0) n = n * 10 ^ s.length + digitsValue s := by
  induction s generalizing n with
  | nil => simp [digitsValue]
  | cons c s ih =>
    have hs : digitsValue (c :: s) = (10 * 0 + (digitValue? c).getD 0) * 10 ^ s.length + digitsValue s :=
      ih _
    rw [List.foldl_cons, ih, hs, List.length_cons, Nat.pow_succ, Nat.mul_zero, Nat.zero_add, Nat.add_mul,
      Nat.mul_assoc, ← Nat.mul_assoc n]
    omega

theorem digitsValue_cons (c : Char) (s : List Char) :
    digitsValue (c :: s) = (digitValue? c).getD 0 * 10 ^ s.length + digitsValue s := by
  rw [digitsValue, List.foldl_cons, digitsValue_foldl, Nat.mul_zero, Nat.zero_add]

/-- Digits in front are worth more by a power of ten. -/
theorem digitsValue_append (s t : List Char) :
    digitsValue (s ++ t) = digitsValue s * 10 ^ t.length + digitsValue t := by
  induction s with
  | nil => simp [digitsValue]
  | cons c s ih =>
    rw [List.cons_append, digitsValue_cons, digitsValue_cons, ih, List.length_append, Nat.pow_add,
      Nat.add_mul, Nat.mul_assoc, Nat.add_assoc]

theorem digitsValue_lt (s : List Char) : digitsValue s < 10 ^ s.length := by
  induction s with
  | nil => decide
  | cons c s ih =>
    have hc : (digitValue? c).getD 0 + 1 ≤ 10 := by
      cases hd : digitValue? c with
      | none => decide
      | some n => exact lt_of_digitValue? hd
    have hmul := Nat.mul_le_mul_right (10 ^ s.length) hc
    rw [Nat.add_mul, Nat.one_mul] at hmul
    rw [digitsValue_cons, List.length_cons, Nat.pow_succ]
    omega

end MessageFormat.Text
