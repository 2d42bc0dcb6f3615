import MessageFormat.Text.Blank

/-!
The words of a text, and what stands before and after a mark.
-/

set_option autoImplicit false

namespace MessageFormat.Text

attribute [local simp] pieces cut

/-- The text has these words, with blanks between them and perhaps around them. -/
inductive Parted : List Char → List (List Char) → Prop
  | blanks {b : List Char} (hb : ∀ c ∈ b, isBlank c = true) : Parted b []
  | word {b w r : List Char} {ws : List (List Char)} (hb : ∀ c ∈ b, isBlank c = true) (hne : w ≠ [])
      (hw : ∀ c ∈ w, isBlank c = false) (hr : ∀ c ∈ r.head?, isBlank c = true) (h : Parted r ws) :
      Parted (b ++ w ++ r) (w :: ws)

section Pieces

variable {sep : Char → Bool} {w : List Char}

theorem pieces_ne_nil (sep : Char → Bool) (s : List Char) : pieces sep s ≠ [] := by
  cases s with
  | nil => simp
  | cons c s =>
    rw [pieces]
    split
    · simp
    · split <;> simp

theorem pieces_of_no_sep (hw : ∀ c ∈ w, sep c = false) : pieces sep w = [w] := by
  induction w with
  | nil => rfl
  | cons c w ih =>
    obtain ⟨hc, hrest⟩ := List.forall_mem_cons.mp hw
    simp [hc, ih hrest]

/-- A separator parts what stands before it from what follows. -/
theorem pieces_append (s : List Char) {b : Char} (hb : sep b = true) (r : List Char) :
    pieces sep (s ++ b :: r) = pieces sep s ++ pieces sep r := by
  induction s with
  | nil => simp [hb]
  | cons c s ih =>
    by_cases hc : sep c = true
    · simp [hc, ih]
    · cases hs : pieces sep s with
      | nil => exact absurd hs (pieces_ne_nil sep s)
      | cons w ws =>
        rw [hs] at ih
        simp [hc, hs, ih]

theorem pieces_append_sep (hw : ∀ c ∈ w, sep c = false) {b : Char} (hb : sep b = true) (r : List Char) :
    pieces sep (w ++ b :: r) = w :: pieces sep r := by
  rw [pieces_append w hb, pieces_of_no_sep hw, List.singleton_append]

theorem fields_append (s : List Char) {b : Char} (hb : sep b = true) (r : List Char) :
    fields sep (s ++ b :: r) = fields sep s ++ fields sep r := by
  rw [fields, pieces_append s hb, List.filter_append, fields, fields]

theorem ne_nil_of_mem_fields {s : List Char} (h : w ∈ fields sep s) : w ≠ [] := by
  simpa using (List.mem_filter.mp h).2

end Pieces

theorem words_blanks {b : List Char} (hb : ∀ c ∈ b, isBlank c = true) (s : List Char) :
    words (b ++ s) = words s := by
  induction b with
  | nil => rfl
  | cons c b ih =>
    obtain ⟨hc, hrest⟩ := List.forall_mem_cons.mp hb
    rw [← ih hrest, List.cons_append, words, fields, pieces, if_pos hc]
    rfl

theorem words_word {w r : List Char} (hne : w ≠ []) (hw : ∀ c ∈ w, isBlank c = false)
    (hr : ∀ c ∈ r.head?, isBlank c = true) : words (w ++ r) = w :: words r := by
  cases r with
  | nil =>
    rw [List.append_nil, words, fields, pieces_of_no_sep hw]
    simp [hne, words, fields]
  | cons b r =>
    have hb : isBlank b = true := hr b rfl
    rw [words, fields, pieces_append_sep hw hb, words, fields, pieces, if_pos hb]
    simp [hne]

theorem parted_words (s : List Char) : Parted s (words s) := by
  induction hn : s.length using Nat.strongRecOn generalizing s with
  | ind n ih =>
    have hb : ∀ c ∈ s.takeWhile isBlank, isBlank c = true := List.all_eq_true.mp List.all_takeWhile
    have hsplit : s.takeWhile isBlank ++ s.dropWhile isBlank = s := List.takeWhile_append_dropWhile
    cases hrest : s.dropWhile isBlank with
    | nil =>
      rw [hrest, List.append_nil] at hsplit
      rw [hsplit] at hb
      have hwords := words_blanks hb []
      rw [List.append_nil] at hwords
      rw [hwords]
      exact .blanks hb
    | cons c rest =>
      rw [hrest] at hsplit
      have hc : isBlank c = false := by
        have hhead := List.head?_dropWhile_not isBlank s
        simpa [hrest] using hhead
      -- a word goes on as far as there is no blank
      let w := (c :: rest).takeWhile fun d => !isBlank d
      let r := (c :: rest).dropWhile fun d => !isBlank d
      have hword : w ++ r = c :: rest := List.takeWhile_append_dropWhile
      have hne : w ≠ [] := by simp [w, hc]
      have hw : ∀ d ∈ w, isBlank d = false := fun d hd => by
        simpa using List.all_eq_true.mp List.all_takeWhile d hd
      have hr : ∀ d ∈ r.head?, isBlank d = true := fun d hd => by
        have hhead := List.head?_dropWhile_not (fun d => !isBlank d) (c :: rest)
        rw [Option.mem_def.mp hd] at hhead
        simpa using hhead
      have hlength : r.length < n := by
        have htotal := congrArg List.length hsplit
        have hpart := congrArg List.length hword
        have hpos := List.length_pos_iff.mpr hne
        simp only [List.length_append] at htotal hpart
        omega
      rw [← hsplit, words_blanks hb, ← hword, words_word hne hw hr, ← List.append_assoc]
      exact .word hb hne hw hr (ih _ hlength r rfl)

theorem words_eq_iff {s : List Char} {ws : List (List Char)} : words s = ws ↔ Parted s ws := by
  constructor
  · rintro rfl
    exact parted_words s
  · intro h
    induction h with
    | @blanks b hb =>
      have hwords := words_blanks hb []
      rw [List.append_nil] at hwords
      exact hwords
    | word hb hne hw hr _ ih => rw [List.append_assoc, words_blanks hb, words_word hne hw hr, ih]

section Cut

variable {c : Char} {s t r : List Char}

theorem cut_of_not_mem (h : c ∉ s) : cut c s = (s, none) := by
  induction s with
  | nil => rfl
  | cons d s ih =>
    rw [List.mem_cons, not_or] at h
    simp [Ne.symm h.1, ih h.2, onto]

theorem cut_append (h : c ∉ s) (r : List Char) : cut c (s ++ c :: r) = (s, some r) := by
  induction s with
  | nil => simp
  | cons d s ih =>
    rw [List.mem_cons, not_or] at h
    simp [Ne.symm h.1, ih h.2, onto]

theorem eq_of_cut (h : cut c s = (t, some r)) : s = t ++ c :: r := by
  induction s generalizing t with
  | nil => cases h
  | cons d s ih =>
    rw [cut] at h
    split at h
    · rename_i hd
      obtain ⟨rfl, hr⟩ := Prod.mk.inj h
      rw [hd, Option.some.inj hr, List.nil_append]
    · rcases hs : cut c s with ⟨t', o⟩
      rw [hs, onto] at h
      obtain ⟨rfl, rfl⟩ := Prod.mk.inj h
      rw [ih hs, List.cons_append]

end Cut

end MessageFormat.Text
