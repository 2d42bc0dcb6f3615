import Mathlib.Data.List.DropRight
import MessageFormat.Text.Blank

/-!
Texts without blanks around them.
-/

set_option autoImplicit false

namespace MessageFormat.Text

/-- What survives the loss of a blank at either end survives trimming. -/
theorem of_trim {P : List Char → Prop} (front : ∀ b s, isBlank b = true → P (b :: s) → P s)
    (back : ∀ b s, isBlank b = true → P (s ++ [b]) → P s) {s : List Char} (h : P s) :
    P (trim s) := by
  have hfront : ∀ s, P s → P (skipBlanks s) := by
    intro s
    induction s with
    | nil => exact id
    | cons c s ih =>
      intro h
      cases hc : isBlank c with
      | false => simpa [skipBlanks, hc] using h
      | true => simpa [skipBlanks, hc] using ih (front c s hc h)
  have hback : ∀ s, P s → P (trimEnd s) := by
    intro s
    induction s using List.reverseRecOn with
    | nil => exact id
    | append_singleton s c ih =>
      intro h
      cases hc : isBlank c with
      | false => simpa [trimEnd, hc] using h
      | true => simpa [trimEnd, hc] using ih (back c s hc h)
  exact hback _ (hfront s h)

theorem trimEnd_isPrefix (s : List Char) : trimEnd s <+: s := by
  have h := List.dropWhile_suffix isBlank (l := s.reverse)
  simpa [trimEnd] using List.reverse_prefix.mpr h

theorem length_trim_le (s : List Char) : (trim s).length ≤ s.length :=
  (trimEnd_isPrefix _).length_le.trans (skipBlanks_length_le s)

theorem trimEnd_trimEnd (s : List Char) : trimEnd (trimEnd s) = trimEnd s := by
  simp [trimEnd, List.dropWhile_idempotent]

theorem skipBlanks_trim (s : List Char) : skipBlanks (trim s) = trim s := by
  cases h : trim s with
  | nil => rfl
  | cons c w =>
    obtain ⟨t, ht⟩ := trimEnd_isPrefix (skipBlanks s)
    rw [show trimEnd (skipBlanks s) = c :: w from h] at ht
    have hc := List.head?_dropWhile_not isBlank s
    rw [show s.dropWhile isBlank = skipBlanks s from rfl, ← ht] at hc
    have hc' : isBlank c = false := by simpa using hc
    simp [skipBlanks, hc']

theorem trim_trim (s : List Char) : trim (trim s) = trim s := by
  rw [trim, skipBlanks_trim, trim, trimEnd_trimEnd]

/-- A text that starts with no blank starts so when it is trimmed. -/
theorem exists_trim_cons {c : Char} (hc : isBlank c = false) (s : List Char) : ∃ t, trim (c :: s) = c :: t := by
  have hskip : skipBlanks (c :: s) = c :: s := by simp [skipBlanks, hc]
  have hkept : ¬ ∀ d ∈ (c :: s).reverse, isBlank d = true := by simp [hc]
  obtain ⟨t, ht⟩ := trimEnd_isPrefix (c :: s)
  rw [trim, hskip]
  cases hend : trimEnd (c :: s) with
  | nil => exact absurd (List.dropWhile_eq_nil_iff.mp (List.reverse_eq_nil_iff.mp hend)) hkept
  | cons d w =>
    rw [hend] at ht
    obtain ⟨rfl, -⟩ := List.cons.inj ht
    exact ⟨w, rfl⟩

/-- Without blanks there is nothing to trim. -/
theorem trim_of_not_blank {s : List Char} (h : ∀ c ∈ s, isBlank c = false) : trim s = s := by
  have hdrop : ∀ s : List Char, (∀ c ∈ s, isBlank c = false) → s.dropWhile isBlank = s := by
    intro s hs
    cases s with
    | nil => rfl
    | cons c s => simp [hs c List.mem_cons_self]
  have hreverse : ∀ c ∈ s.reverse, isBlank c = false := fun c hc => h c (List.mem_reverse.mp hc)
  rw [trim, skipBlanks, hdrop s h, trimEnd, hdrop _ hreverse, List.reverse_reverse]

/-- A text is trimmed if it neither starts nor ends in a blank. -/
theorem trim_eq_self_iff {s : List Char} :
    trim s = s ↔ (∀ c ∈ s.head?, isBlank c = false) ∧ ∀ c ∈ s.getLast?, isBlank c = false := by
  have hfront : skipBlanks s = s ↔ ∀ c ∈ s.head?, isBlank c = false := by
    cases s with
    | nil => simp [skipBlanks]
    | cons c s => simp [skipBlanks, List.dropWhile_eq_self_iff]
  have hback (t : List Char) : trimEnd t = t ↔ ∀ c ∈ t.getLast?, isBlank c = false := by
    rw [show trimEnd t = t.rdropWhile isBlank from rfl, List.rdropWhile_eq_self_iff]
    cases t using List.reverseRecOn with
    | nil => simp
    | append_singleton t c => simp
  rw [← hfront, ← hback s]
  constructor
  · intro h
    have hskip := skipBlanks_trim s
    rw [h] at hskip
    rw [trim, hskip] at h
    exact ⟨hskip, h⟩
  · rintro ⟨hskip, hend⟩
    rw [trim, hskip, hend]

theorem trim_eq_nil_iff {s : List Char} : trim s = [] ↔ ∀ c ∈ s, isBlank c = true := by
  rw [← List.dropWhile_eq_nil_iff]
  constructor
  · intro h
    have hall : ∀ c ∈ skipBlanks s, isBlank c = true := by
      simpa [trim, trimEnd, List.dropWhile_eq_nil_iff] using h
    cases hs : skipBlanks s with
    | nil => exact hs
    | cons c r =>
      have hhead := List.head?_dropWhile_not isBlank s
      rw [show s.dropWhile isBlank = c :: r from hs] at hhead
      simp [hall c (hs ▸ List.mem_cons_self)] at hhead
  · intro h
    rw [trim, show skipBlanks s = [] from h]
    rfl

/-- A trimmed text keeps its ends. -/
theorem trim_cons_blank {b : Char} (hb : isBlank b = true) (s : List Char) :
    trim (b :: s) = trim s := by
  simp [trim, skipBlanks, hb]

theorem trim_append_blank {b : Char} (hb : isBlank b = true) {s : List Char} (h : trim s = s) :
    trim (s ++ [b]) = s := by
  cases s with
  | nil => simp [trim, skipBlanks, hb, trimEnd]
  | cons c s =>
    have hc := skipBlanks_trim (c :: s)
    rw [h] at hc
    have hn : isBlank c = false := by
      cases hc' : isBlank c with
      | false => rfl
      | true =>
        have hl := (List.dropWhile_suffix isBlank (l := s)).length_le
        have he := congrArg List.length hc
        simp only [skipBlanks, List.dropWhile_cons, hc', if_true, List.length_cons] at he
        omega
    have he : trimEnd (c :: s) = c :: s := by rw [trim, hc] at h; exact h
    simp only [trimEnd] at he
    simp [trim, skipBlanks, hn, trimEnd, hb]
    simpa using he

end MessageFormat.Text
