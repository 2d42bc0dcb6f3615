import MessageFormat.Locale.Tag
import MessageFormat.Proofs.Text.Case

/-!
Spellings of one locale. They differ in the blanks around them, in case, and in low lines for hyphens.
-/

set_option autoImplicit false

namespace MessageFormat.Locale

open Text

/-- The same character, or both part subtags. -/
def SameMark (c d : Char) : Prop := c = d ∨ c ∈ ['-', '_'] ∧ d ∈ ['-', '_']

instance : DecidableRel SameMark := fun c d => by unfold SameMark; infer_instance

/-- Without the blanks around them and in lower case, these differ in low lines for hyphens at most. -/
def Alike (a b : String) : Prop :=
  List.Forall₂ SameMark (lower (trim a.toList)) (lower (trim b.toList))

instance : DecidableRel Alike := fun _ _ => inferInstanceAs (Decidable (List.Forall₂ ..))

section Lower

variable {c : Char} {s : List Char}

theorem swapChar_cons (c : Char) (s : List Char) :
    swapChar '_' '-' (c :: s) = (if c = '_' then '-' else c) :: swapChar '_' '-' s := rfl

theorem swapChar_of_not_mem (h : '_' ∉ s) : swapChar '_' '-' s = s := by
  refine (List.map_congr_left fun c hc => if_neg ?_).trans s.map_id
  rintro rfl
  exact h hc

/-- Neither mark is a letter, nor passed over in search of one. -/
theorem reachesCased_swapChar (s : List Char) :
    reachesCased (swapChar '_' '-' s) = reachesCased s := by
  have hlow : isCaseIgnorable '_' = false ∧ inRanges casedRanges '_'.toNat = false := by decide +kernel
  have hhyphen : isCaseIgnorable '-' = false ∧ inRanges casedRanges '-'.toNat = false := by decide +kernel
  induction s with
  | nil => rfl
  | cons c s ih =>
    rw [swapChar_cons]
    split_ifs with hc
    · subst hc
      simp only [reachesCased, List.dropWhile_cons, hlow.1, hhyphen.1, hlow.2, hhyphen.2,
        Bool.false_eq_true, if_false]
    · by_cases hpast : isCaseIgnorable c = true
      · simpa [reachesCased, hpast] using ih
      · simp [reachesCased, hpast]

/-- Neither mark is the lower case of another character. -/
theorem toLower_ne {mark : Char} (hmark : mark ∈ ['-', '_']) (hc : c ≠ mark) (hlow : c.toNat < 128) :
    c.toLower ≠ mark := by
  have hall : ∀ n < 128, Char.ofNat n ≠ mark → (Char.ofNat n).toLower ≠ mark := by
    rcases List.mem_pair.mp hmark with rfl | rfl <;> decide
  have hself := hall c.toNat hlow
  rw [Char.ofNat_toNat] at hself
  exact hself hc

theorem mapCase_lower_ne {mark : Char} (hmark : mark ∈ ['-', '_']) (hc : c ≠ mark) :
    mark ∉ mapCase lowerRuns lowerExpansions c := by
  intro hmem
  have hrange : mark.toNat ≠ 0 ∧ mark.toNat ≤ 95 := by
    rcases List.mem_pair.mp hmark with rfl | rfl <;> decide
  have hruns : ∀ run ∈ lowerRuns, (95 : Int) < run.first + run.shift := by decide +kernel
  have hexpansions : ∀ e ∈ lowerExpansions, ∀ n ∈ e.2, 95 < n := by decide
  refine toNat_ne_of_mem_mapCase hrange.1 (fun run hrun => ?_) (fun e he hn => ?_)
    (fun h => hc (Char.toNat_inj.mp h)) _ hmem rfl
  · have hlow := hruns run hrun
    omega
  · have hlow := hexpansions e he _ hn
    omega

/-- Lower case neither brings nor takes low lines, and sees no difference between them and hyphens. -/
theorem lowerFrom_swapChar (before s : List Char) :
    lowerFrom (swapChar '_' '-' before) (swapChar '_' '-' s) =
      swapChar '_' '-' (lowerFrom before s) := by
  have happend (s t : List Char) :
      swapChar '_' '-' (s ++ t) = swapChar '_' '-' s ++ swapChar '_' '-' t := List.map_append
  induction s generalizing before with
  | nil => rfl
  | cons c s ih =>
    have hnext := ih (c :: before)
    rw [swapChar_cons] at hnext
    by_cases hc : c = '_'
    · subst hc
      rw [if_pos rfl] at hnext
      simp only [lowerFrom, swapChar_cons, if_true, happend]
      exact congrArg ('-' :: ·) hnext
    · rw [if_neg hc] at hnext
      rw [swapChar_cons, if_neg hc, lowerFrom, lowerFrom, happend, hnext, reachesCased_swapChar,
        reachesCased_swapChar]
      congr 1
      refine (swapChar_of_not_mem ?_).symm
      split_ifs with hlow
      · simpa using (toLower_ne (by decide) hc hlow).symm
      · decide
      · decide
      · exact mapCase_lower_ne (by decide) hc

theorem lower_swapChar (s : List Char) : lower (swapChar '_' '-' s) = swapChar '_' '-' (lower s) :=
  lowerFrom_swapChar [] s

end Lower

theorem swapChar_eq_iff {s t : List Char} :
    swapChar '_' '-' s = swapChar '_' '-' t ↔ List.Forall₂ SameMark s t := by
  induction s generalizing t with
  | nil =>
    cases t with
    | nil => exact iff_of_true rfl .nil
    | cons d t => exact iff_of_false (by rintro ⟨⟩) (by rintro ⟨⟩)
  | cons c s ih =>
    cases t with
    | nil => exact iff_of_false (by rintro ⟨⟩) (by rintro ⟨⟩)
    | cons d t =>
      rw [swapChar_cons, swapChar_cons, List.cons.injEq, ih, List.forall₂_cons]
      refine and_congr_left fun _ => ?_
      unfold SameMark
      split_ifs <;> simp_all [eq_comm]

/-- Spellings are alike just if their hyphenated forms are the same in lower case. -/
theorem lowerString_hyphenated_eq_iff {a b : String} :
    lowerString (hyphenated a) = lowerString (hyphenated b) ↔ Alike a b := by
  simp only [lowerString, hyphenated, String.toList_ofList, String.ofList_inj, lower_swapChar,
    swapChar_eq_iff, Alike]

end MessageFormat.Locale
