import Mathlib.Data.List.Basic
import MessageFormat.Binary64
import MessageFormat.Proofs.Decimal.Positional

/-!
Texts of binary numbers. They are digits, signs, points, letters of exponents and the names of what is no
finite number.
-/

set_option autoImplicit false

namespace MessageFormat.Binary64

open Text

/-- The characters of numbers, besides digits. -/
def marks : List Char := ['-', '+', '.', 'e', 'n', 'a', 'i', 'f']

def IsNumeric (s : List Char) : Prop := ∀ c ∈ s, c.isDigit = true ∨ c ∈ marks

variable {s t : List Char} {c : Char}

theorem isNumeric_append : IsNumeric (s ++ t) ↔ IsNumeric s ∧ IsNumeric t := List.forall_mem_append

theorem isNumeric_cons : IsNumeric (c :: s) ↔ (c.isDigit = true ∨ c ∈ marks) ∧ IsNumeric s :=
  List.forall_mem_cons

theorem isNumeric_digits (h : ∀ c ∈ s, c.isDigit = true) : IsNumeric s := fun c hc => .inl (h c hc)

theorem isNumeric_marks (h : s ⊆ marks) : IsNumeric s := fun _ hc => .inr (h hc)

theorem isNumeric_zeros (n : Nat) : IsNumeric (List.replicate n '0') := by
  intro c hc
  rw [List.eq_of_mem_replicate hc]
  exact .inl rfl

theorem isNumeric_magnitudeText (h : IsNumeric s) (power : Int) : IsNumeric (magnitudeText s power) := by
  unfold magnitudeText
  extract_lets point e shown
  have hshown : IsNumeric shown := by
    unfold shown
    split
    · exact h
    · obtain ⟨hc, hrest⟩ := isNumeric_cons.mp h
      exact isNumeric_cons.mpr ⟨hc, isNumeric_cons.mpr ⟨.inr (by decide), hrest⟩⟩
    · exact isNumeric_digits (by simp)
  split
  · refine isNumeric_append.mpr ⟨hshown, ?_⟩
    refine isNumeric_cons.mpr ⟨.inr (by decide), isNumeric_cons.mpr ⟨.inr ?_, ?_⟩⟩
    · split <;> decide
    · exact isNumeric_digits Decimal.ascii_of_padZeros
  · split
    · refine isNumeric_append.mpr ⟨?_, h⟩
      exact isNumeric_cons.mpr ⟨.inl rfl, isNumeric_cons.mpr ⟨.inr (by decide), isNumeric_zeros _⟩⟩
    · split
      · refine isNumeric_append.mpr ⟨isNumeric_append.mpr ⟨h, isNumeric_zeros _⟩, ?_⟩
        exact isNumeric_cons.mpr ⟨.inr (by decide), isNumeric_zeros 1⟩
      · refine isNumeric_append.mpr ⟨fun c hc => h c (List.mem_of_mem_take hc), ?_⟩
        exact isNumeric_cons.mpr ⟨.inr (by decide), fun c hc => h c (List.mem_of_mem_drop hc)⟩

theorem isNumeric_text (x : Binary64) : IsNumeric x.text := by
  cases x with
  | notANumber => exact isNumeric_marks (by decide)
  | infinite negative => cases negative <;> exact isNumeric_marks (by decide)
  | finite negative m e =>
    have hsign : IsNumeric (if negative then ['-'] else []) :=
      isNumeric_marks (by cases negative <;> decide)
    refine isNumeric_append.mpr ⟨hsign, ?_⟩
    split
    · have hzero : IsNumeric ['0'] := isNumeric_zeros 1
      exact isNumeric_cons.mpr ⟨.inl rfl, isNumeric_cons.mpr ⟨.inr (by decide), hzero⟩⟩
    · exact isNumeric_magnitudeText (isNumeric_digits Decimal.ascii_of_natDigits) _

theorem isNumeric_compactText (x : Binary64) : IsNumeric x.compactText := by
  unfold compactText
  dsimp only
  split
  · exact fun c hc => x.isNumeric_text c (List.mem_of_mem_take hc)
  · exact x.isNumeric_text

/-- What holds of digits and marks holds of all characters. -/
theorem IsNumeric.all {p : Char → Bool} (h : IsNumeric s)
    (hdigit : ∀ c : Char, c.isDigit = true → p c = true) (hmarks : marks.all p = true) :
    ∀ c ∈ s, p c = true :=
  fun c hc => (h c hc).elim (hdigit c) (List.all_eq_true.mp hmarks c)

end MessageFormat.Binary64
