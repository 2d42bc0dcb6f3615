import MessageFormat.Text.Blank
import Mathlib.Data.List.Infix

/-!
Replacing in texts. Every occurrence from the left gives way to the new text, which is not looked at again; two texts
can be replaced in apart where no occurrence lies over their seam.
-/

set_option autoImplicit false

namespace MessageFormat.Text

variable {old new s t : List Char} {c : Char}

/-- Any fuel does that is enough for the characters. -/
theorem replaceAll.go_eq (hold : old ≠ []) (new : List Char) : ∀ n m s, s.length ≤ n → s.length ≤ m →
    replaceAll.go old new n s = replaceAll.go old new m s := by
  intro n
  induction n with
  | zero =>
    intro m s hn hm
    obtain rfl := List.length_eq_zero_iff.mp (Nat.le_zero.mp hn)
    cases m <;> rfl
  | succ n ih =>
    intro m s hn hm
    cases s with
    | nil => cases m <;> rfl
    | cons c r =>
      obtain ⟨m, rfl⟩ : ∃ k, m = k + 1 := ⟨m - 1, by simp at hm; omega⟩
      have hpos := List.length_pos_iff.mpr hold
      simp only [List.length_cons, Nat.add_le_add_iff_right] at hn hm
      have hrest := ih m r hn hm
      have hafter := ih m ((c :: r).drop old.length) (by simp; omega) (by simp; omega)
      simp only [replaceAll.go, hrest, hafter]

@[simp] theorem replaceAll_nil (old new : List Char) : replaceAll old new [] = [] := rfl

/-- Where no occurrence starts a character stays. -/
theorem replaceAll_cons (h : ¬ old <+: c :: s) : replaceAll old new (c :: s) = c :: replaceAll old new s := by
  simp [replaceAll, replaceAll.go, h]

/-- An occurrence gives way. -/
theorem replaceAll_append (hold : old ≠ []) (s : List Char) :
    replaceAll old new (old ++ s) = new ++ replaceAll old new s := by
  obtain ⟨c, r, rfl⟩ := List.exists_cons_of_ne_nil hold
  have hfuel := replaceAll.go_eq hold new (r ++ s).length s.length s (by simp) le_rfl
  have hstep : replaceAll (c :: r) new (c :: r ++ s) =
      new ++ replaceAll.go (c :: r) new (r ++ s).length s := by
    simp [replaceAll, replaceAll.go]
  rw [hstep, hfuel, ← replaceAll]

/-- A text is empty, or starts with an occurrence, or with a character where no occurrence starts. -/
theorem occurrence_induction {P : List Char → Prop} (hold : old ≠ []) (nil : P [])
    (occurs : ∀ s, P s → P (old ++ s)) (skips : ∀ c s, ¬ old <+: c :: s → P s → P (c :: s))
    (s : List Char) : P s := by
  induction hn : s.length using Nat.strongRecOn generalizing s with
  | ind n ih =>
    by_cases hstart : old <+: s
    · obtain ⟨rest, rfl⟩ := hstart
      have hpos := List.length_pos_iff.mpr hold
      rw [List.length_append] at hn
      exact occurs rest (ih rest.length (by omega) rest rfl)
    · cases s with
      | nil => exact nil
      | cons c s => exact skips c s hstart (ih s.length (by simp [← hn]) s rfl)

/-- Two texts are replaced in apart where what follows does not end an occurrence that starts before. -/
theorem replaceAll_append_of_apart (hold : old ≠ [])
    (h : ∀ u v, old = u ++ v → u ≠ [] → v ≠ [] → ¬ v <+: t) (s : List Char) :
    replaceAll old new (s ++ t) = replaceAll old new s ++ replaceAll old new t := by
  induction s using occurrence_induction hold with
  | nil => simp
  | occurs s ih =>
    simp only [List.append_assoc, replaceAll_append hold, ih]
  | skips c s hstart ih =>
    have hseam : ¬ old <+: c :: (s ++ t) := by
      rintro ⟨rest, hrest⟩
      rcases List.append_eq_append_iff.mp (hrest.trans (List.cons_append).symm) with ⟨v, hv, -⟩ | ⟨v, hv, ht⟩
      · exact hstart ⟨v, hv.symm⟩
      · rcases eq_or_ne v [] with rfl | hne
        · exact hstart ⟨[], by simp [hv]⟩
        · exact h (c :: s) v hv (List.cons_ne_nil c s) hne ⟨rest, ht.symm⟩
    rw [List.cons_append, replaceAll_cons hseam, replaceAll_cons hstart, ih, List.cons_append]

/-- A text without the character that starts an occurrence stays. -/
theorem replaceAll_append_of_not_mem (h : c ∉ s) (old new t : List Char) :
    replaceAll (c :: old) new (s ++ t) = s ++ replaceAll (c :: old) new t := by
  induction s with
  | nil => rfl
  | cons d s ih =>
    rw [List.mem_cons, not_or] at h
    have hstart : ¬ c :: old <+: d :: (s ++ t) := fun hprefix => h.1 (List.cons_prefix_cons.mp hprefix).1
    rw [List.cons_append, replaceAll_cons hstart, ih h.2, List.cons_append]

/-! Where replacing changes nothing. -/

theorem replaceAll_self (hold : old ≠ []) (s : List Char) : replaceAll old old s = s := by
  induction s using occurrence_induction hold with
  | nil => rfl
  | occurs s ih => rw [replaceAll_append hold, ih]
  | skips c s hstart ih => rw [replaceAll_cons hstart, ih]

theorem replaceAll_of_not_infix (h : ¬ old <:+: s) : replaceAll old new s = s := by
  induction s with
  | nil => rfl
  | cons c s ih =>
    rw [List.infix_cons_iff, not_or] at h
    rw [replaceAll_cons h.1, ih h.2]

/-- How the length changes with the number of occurrences. -/
theorem length_replaceAll (hold : old ≠ []) (new s : List Char) :
    ∃ n, (replaceAll old new s).length + n * old.length = s.length + n * new.length ∧ (old <:+: s → 0 < n) := by
  induction s using occurrence_induction hold with
  | nil => exact ⟨0, by simp, fun h => absurd (List.infix_nil.mp h) hold⟩
  | occurs s ih =>
    obtain ⟨n, hlength, -⟩ := ih
    refine ⟨n + 1, ?_, fun _ => n.succ_pos⟩
    rw [replaceAll_append hold, List.length_append, List.length_append, Nat.add_one_mul, Nat.add_one_mul]
    omega
  | skips c s hstart ih =>
    obtain ⟨n, hlength, hoccurs⟩ := ih
    refine ⟨n, ?_, fun h => hoccurs ((List.infix_cons_iff.mp h).resolve_left hstart)⟩
    rw [replaceAll_cons hstart, List.length_cons, List.length_cons]
    omega

theorem eq_of_replaceAll_eq_self (hold : old ≠ []) (hlength : new.length = old.length) (s : List Char) :
    old <:+: s → replaceAll old new s = s → new = old := by
  induction s using occurrence_induction hold with
  | nil => exact fun h _ => absurd (List.infix_nil.mp h) hold
  | occurs s ih =>
    intro _ hself
    rw [replaceAll_append hold] at hself
    exact (List.append_inj hself hlength).1
  | skips c s hstart ih =>
    intro hoccurs hself
    rw [replaceAll_cons hstart, List.cons.injEq] at hself
    exact ih ((List.infix_cons_iff.mp hoccurs).resolve_left hstart) hself.2

/-- Replacing changes a text just if it finds something, and something else than the new text. -/
theorem replaceAll_eq_self_iff (hold : old ≠ []) : replaceAll old new s = s ↔ new = old ∨ ¬ old <:+: s := by
  constructor
  · intro hself
    by_cases hoccurs : old <:+: s
    · obtain ⟨n, hcount, hpos⟩ := length_replaceAll hold new s
      rw [hself, Nat.add_left_cancel_iff] at hcount
      exact .inl (eq_of_replaceAll_eq_self hold (Nat.eq_of_mul_eq_mul_left (hpos hoccurs) hcount).symm s hoccurs hself)
    · exact .inr hoccurs
  · rintro (rfl | habsent)
    · exact replaceAll_self hold s
    · exact replaceAll_of_not_infix habsent

end MessageFormat.Text
