import MessageFormat.Format.Duration
import MessageFormat.Proofs.Decimal.Operations
import MessageFormat.Proofs.Decimal.Sum

/-!
The seconds of durations in ISO 8601. Their parts are summed up one after the other, and there is no sum just if some
part overflows.
-/

set_option autoImplicit false

namespace MessageFormat

/-- A fold ends with an error just if some step does. -/
theorem foldlM_eq_error_iff {ε α β : Type} {f : β → α → Except ε β} {l : List α} {init : β} {e : ε} :
    l.foldlM f init = .error e ↔
      ∃ done a rest b, l = done ++ a :: rest ∧ done.foldlM f init = .ok b ∧ f b a = .error e := by
  induction l generalizing init with
  | nil => exact iff_of_false (by rintro ⟨⟩) (by simp)
  | cons a l ih =>
    rw [List.foldlM_cons]
    constructor
    · intro h
      cases hstep : f init a with
      | error e' =>
        rw [hstep] at h
        exact ⟨[], a, l, init, rfl, rfl, hstep.trans h⟩
      | ok b =>
        rw [hstep] at h
        obtain ⟨done, a', rest, b', rfl, hdone, herror⟩ := ih.mp h
        refine ⟨a :: done, a', rest, b', rfl, ?_, herror⟩
        rw [List.foldlM_cons, hstep]
        exact hdone
    · rintro ⟨done, a', rest, b', hl, hdone, herror⟩
      cases done with
      | nil =>
        obtain ⟨rfl, rfl⟩ := List.cons.inj hl
        obtain rfl := Except.ok.inj hdone
        rw [herror]
        rfl
      | cons a'' done =>
        obtain ⟨rfl, rfl⟩ := List.cons.inj hl
        rw [List.foldlM_cons] at hdone
        cases hstep : f init a with
        | error e' =>
          rw [hstep] at hdone
          cases hdone
        | ok b =>
          rw [hstep] at hdone
          exact ih.mpr ⟨done, a', rest, b', rfl, hdone, herror⟩

/-- What every step gives holds in the end. -/
theorem foldlM_gives {ε α β : Type} {f : β → α → Except ε β} {P : β → Prop}
    (hstep : ∀ b a b', f b a = .ok b' → P b') {l : List α} {init r : β} (hinit : P init)
    (h : l.foldlM f init = .ok r) : P r := by
  induction l generalizing init with
  | nil => exact Except.ok.inj h ▸ hinit
  | cons a l ih =>
    rw [List.foldlM_cons] at h
    cases hnext : f init a with
    | error e =>
      rw [hnext] at h
      cases h
    | ok next =>
      rw [hnext] at h
      exact ih (hstep init a next hnext) h

section Parts

variable {parts : List (Decimal × Nat)} {total : Decimal}

open Decimal

/-- The seconds of a part, or their sum with those of the parts before, are too large. -/
def PartOverflows (total : Decimal) (part : Decimal × Nat) : Prop :=
  overflowBound defaultPrecision ≤ part.1.size * part.2 ∨
    ∃ product, part.1.multiply (ofNat part.2) = .ok product ∧
      overflowBound defaultPrecision ≤ |total.value + product.value|

/-- One step of the sum of the parts. -/
def addPart (total : Decimal) (part : Decimal × Nat) : Decimal.Result :=
  part.1.multiply (ofNat part.2) >>= total.add

theorem addPart_eq_error_iff {part : Decimal × Nat} {s : Signal} :
    addPart total part = .error s ↔ s = .overflow ∧ PartOverflows total part := by
  unfold addPart PartOverflows
  cases hproduct : part.1.multiply (ofNat part.2) with
  | error s' =>
    obtain ⟨rfl, hbound⟩ := multiply_eq_error_iff.mp hproduct
    rw [size_ofNat] at hbound
    simp [hbound, Bind.bind, Except.bind, eq_comm]
  | ok product =>
    have hbound : ¬ overflowBound defaultPrecision ≤ part.1.size * part.2 := by
      intro hle
      rw [← size_ofNat part.2] at hle
      rw [multiply_eq_error_iff.mpr ⟨rfl, hle⟩] at hproduct
      cases hproduct
    have hsum : total.add product = .error s ↔
        s = .overflow ∧ overflowBound defaultPrecision ≤ |total.value + product.value| := by
      rw [add_eq, finish_eq_error_iff defaultPrecision_pos, ← abs_value, value_sum]
    simpa [hbound, Bind.bind, Except.bind] using hsum

/-- The parts have no sum just if one of them overflows, after those before it. -/
theorem partsTotal_eq_error_iff {s : Signal} : partsTotal parts = .error s ↔
    s = .overflow ∧ ∃ done part rest total, parts = done ++ part :: rest ∧ partsTotal done = .ok total ∧
      PartOverflows total part := by
  have hfold : ∀ parts, partsTotal parts = parts.foldlM addPart Decimal.zero := fun parts => rfl
  simp only [hfold, foldlM_eq_error_iff, addPart_eq_error_iff]
  grind

theorem fits_of_addPart {part : Decimal × Nat} {r : Decimal} (h : addPart total part = .ok r) : r.Fits := by
  unfold addPart at h
  cases hproduct : part.1.multiply (ofNat part.2) with
  | error s =>
    rw [hproduct] at h
    cases h
  | ok product =>
    rw [hproduct] at h
    have hadd : total.add product = .ok r := h
    rw [add_eq] at hadd
    exact fits_of_finish defaultPrecision_pos hadd

theorem fits_of_partsTotal (h : partsTotal parts = .ok total) : total.Fits :=
  foldlM_gives (f := addPart) (fun _ _ _ hstep => fits_of_addPart hstep) (by decide) h

theorem exists_minus (h : total.Fits) : ∃ r, total.minus = .ok r := by
  have hnegated : total.negated.Fits := h
  unfold Decimal.minus
  split
  · exact ⟨_, h.magnitude.finish_eq defaultPrecision_pos⟩
  · exact ⟨_, hnegated.finish_eq defaultPrecision_pos⟩

/-- Only the parts of a text can have no sum. -/
theorem seconds?_eq_error_iff {value : Value} {s : Signal} : value.seconds? = .error s ↔
    ∃ text negative parts, value = .text text ∧ isoDuration? (Text.trim text.toList) = some (negative, parts) ∧
      partsTotal parts = .error s := by
  constructor
  · intro h
    unfold Value.seconds? at h
    split at h
    · cases h
    · rename_i text
      split at h
      · cases h
      · rename_i negative parts hparts hiso
        refine ⟨text, negative, parts, rfl, hiso, ?_⟩
        cases htotal : partsTotal parts with
        | error s' =>
          rw [htotal] at h
          exact congrArg Except.error (Except.error.inj h)
        | ok total =>
          obtain ⟨r, hr⟩ := exists_minus (fits_of_partsTotal htotal)
          rw [htotal] at h
          cases negative <;> simp [hr, Bind.bind, Except.bind, pure, Except.pure] at h
      · cases h
    · cases h
  · rintro ⟨text, negative, parts, rfl, hiso, hparts⟩
    cases parts with
    | nil => cases hparts
    | cons part parts =>
      simp only [Value.seconds?, hiso, hparts]
      rfl

end Parts

end MessageFormat
