import MessageFormat.Proofs.Pattern.Slot

/-!
Text is read up to the first place where something else starts, with its quotations taken away.
-/

set_option autoImplicit false

namespace MessageFormat.Pattern.Grammar

open Text

theorem isLetter_marks : isLetter '/' = false ∧ isLetter '<' = false ∧ isLetter '}' = false := by
  decide +kernel

theorem ne_slash_of_isLetter {c : Char} (h : isLetter c = true) : c ≠ '/' := by
  intro hx
  subst hx
  simp [isLetter_marks.1] at h

theorem startsTag_eq_true_iff {s : List Char} :
    startsTag s = true ↔
      ∃ c r, isLetter c = true ∧ (s = '<' :: '/' :: c :: r ∨ s = '<' :: c :: r) := by
  constructor
  · intro h
    unfold startsTag at h
    split at h
    · rename_i c r
      exact ⟨c, r, h, .inl rfl⟩
    · rename_i c r _
      exact ⟨c, r, h, .inr rfl⟩
    · cases h
  · intro hx
    rcases hx with ⟨c, r, hc, rfl | rfl⟩
    · exact hc
    · simpa [startsTag, ne_slash_of_isLetter hc] using hc

theorem opensTag_iff {r : List Char} : OpensTag r ↔ startsTag ('<' :: r) = true := by
  simp only [startsTag_eq_true_iff, OpensTag, List.cons.injEq, true_and]
  constructor
  · intro hx
    obtain ⟨c, r', hc, h⟩ := hx
    exact ⟨c, r', hc, h.symm⟩
  · intro hx
    obtain ⟨c, r', hc, h⟩ := hx
    exact ⟨c, r', hc, h.symm⟩

theorem stops_eq_false_iff {scope : Scope} {c : Char} {r : List Char} :
    scope.stops (c :: r) = false ↔ c ≠ '{' ∧ (c = '}' → scope.inBody = false) ∧
      (c = '#' → scope.inPlural = false) ∧
      (c = '<' → scope.tags = true → startsTag (c :: r) = false) := by
  simp only [Scope.stops, Bool.or_eq_false_iff, Bool.and_eq_false_imp, Bool.and_eq_true,
    beq_iff_eq, beq_eq_false_iff_ne, and_imp, and_assoc, ne_eq]

theorem isPlain_iff {scope : Scope} {c : Char} {r : List Char} :
    IsPlain scope c r ↔ c ≠ '\'' ∧ scope.stops (c :: r) = false := by
  have ht : c = '<' → (¬ OpensTag r ↔ startsTag (c :: r) = false) := by
    intro hx
    subst hx
    rw [opensTag_iff, Bool.not_eq_true]
  rw [stops_eq_false_iff]
  constructor
  · intro hx
    obtain ⟨hq, ho, hc, hh, ha⟩ := hx
    exact ⟨hq, ho, hc, hh, fun h htags => (ht h).mp (ha h htags)⟩
  · intro hx
    obtain ⟨hq, ho, hc, hh, ha⟩ := hx
    exact ⟨hq, ho, hc, hh, fun h htags => (ht h).mpr (ha h htags)⟩

/-- An apostrophe is doubled, starts or ends a quotation or stands for itself; any other character stands for
itself where it does not stop the text. -/
theorem text_cons (scope : Scope) (quoted : Bool) (c : Char) (s : List Char) :
    text scope quoted (c :: s) =
      if c = '\'' then
        if s.head? = some '\'' then onto '\'' (text scope quoted s.tail)
        else if quoted then text scope false s
        else if s.head?.any isQuotable then text scope true s
        else onto '\'' (text scope false s)
      else if !quoted && scope.stops (c :: s) then ([], c :: s)
      else onto c (text scope quoted s) := by
  cases s with
  | nil => by_cases hc : c = '\'' <;> cases quoted <;> simp [text, hc]
  | cons d s =>
    by_cases hc : c = '\'' <;> by_cases hd : d = '\'' <;> cases quoted <;> simp [text, hc, hd]

theorem text_of_quoted {scope : Scope} {s r q : List Char} (h : Quoted s r q) :
    text scope true s = prepend q (text scope false r) := by
  induction h with
  | char hc _ ih =>
    rw [text_cons, if_neg hc, if_neg (by simp), ih]
    rfl
  | apostrophe _ ih =>
    rw [text_cons, if_pos rfl, if_pos List.head?_cons, List.tail_cons, ih]
    rfl
  | close hr =>
    rw [text_cons, if_pos rfl, if_neg hr, if_pos rfl]
    rfl
  | endOfText => rfl

/-- An apostrophe stops no text. -/
theorem ne_apostrophe_of_stops {scope : Scope} {c : Char} {r : List Char}
    (h : scope.stops (c :: r) = true) : c ≠ '\'' := by
  intro hx
  subst hx
  simp [Scope.stops] at h

theorem text_of_stops {scope : Scope} {r : List Char} (h : scope.stops r = true) :
    text scope false r = ([], r) := by
  cases r with
  | nil => rfl
  | cons c r =>
    rw [text_cons, if_neg (ne_apostrophe_of_stops h), if_pos (by simp [h])]

/-- A run of text is read whatever follows it, and then what follows. -/
theorem TextRun.text_eq {scope : Scope} {s r t : List Char} (h : TextRun scope s r t) :
    text scope false s = prepend t (text scope false r) := by
  induction h with
  | nil => rfl
  | apostrophes _ ih =>
    rw [text_cons, if_pos rfl, if_pos List.head?_cons, List.tail_cons, ih]
    rfl
  | @quotation c s s₁ r q t hc hq _ ih =>
    have hn : c ≠ '\'' := by intro hx; subst hx; revert hc; decide
    rw [text_cons, if_pos rfl, if_neg (by simpa using hn), if_neg (by simp), if_pos (by simpa using hc),
      text_of_quoted hq, ih]
    simp [prepend]
  | @apostrophe s r t hs _ ih =>
    have hn : s.head? ≠ some '\'' := fun h => (hs _ h).1 rfl
    have hq : ¬ s.head?.any isQuotable = true := by
      rw [Option.any_eq_true]
      rintro ⟨c, hc, hquotable⟩
      simp [(hs c hc).2] at hquotable
    rw [text_cons, if_pos rfl, if_neg hn, if_neg (by simp), if_neg hq, ih]
    rfl
  | plain hc _ ih =>
    obtain ⟨hn, hs⟩ := isPlain_iff.mp hc
    rw [text_cons, if_neg hn, if_neg (by simp [hs]), ih]
    rfl

theorem text_of_textRun {scope : Scope} {s r t : List Char} (h : TextRun scope s r t)
    (hr : scope.stops r = true) : text scope false s = (t, r) := by
  rw [h.text_eq, text_of_stops hr, prepend, List.append_nil]

/-- What a quotation still has to close before the rest of the text. -/
def TextFrom (scope : Scope) (quoted : Bool) (s r t : List Char) : Prop :=
  if quoted then ∃ s₁ q u, Quoted s s₁ q ∧ TextRun scope s₁ r u ∧ t = q ++ u
  else TextRun scope s r t

theorem text_sound {scope : Scope} {quoted : Bool} {s t r : List Char}
    (h : text scope quoted s = (t, r)) : scope.stops r = true ∧ TextFrom scope quoted s r t := by
  fun_induction text scope quoted s generalizing t with
  | case1 quoted =>
    obtain ⟨rfl, rfl⟩ := Prod.mk.inj h
    refine ⟨rfl, ?_⟩
    cases quoted with
    | false => exact TextRun.nil
    | true => exact ⟨[], [], [], .endOfText, .nil, rfl⟩
  | case2 quoted s ih =>
    obtain ⟨t, rfl, h'⟩ := onto_eq_iff.mp h
    obtain ⟨hr, ht⟩ := ih h'
    refine ⟨hr, ?_⟩
    cases quoted with
    | false => exact TextRun.apostrophes ht
    | true =>
      obtain ⟨s₁, q, u, hq, hu, rfl⟩ := ht
      exact ⟨s₁, _, u, .apostrophe hq, hu, rfl⟩
  | case3 s hs ih =>
    -- a single apostrophe closes the quotation
    obtain ⟨hr, ht⟩ := ih h
    have hn : s.head? ≠ some '\'' := by
      intro hh
      obtain ⟨s', rfl⟩ := List.head?_eq_some_iff.mp hh
      exact hs s' rfl
    exact ⟨hr, s, [], t, .close hn, ht, rfl⟩
  | case4 c s _ hc ih =>
    obtain ⟨t, rfl, h'⟩ := onto_eq_iff.mp h
    obtain ⟨hr, s₁, q, u, hq, hu, rfl⟩ := ih h'
    exact ⟨hr, s₁, c :: q, u, .char hc hq, hu, rfl⟩
  | case5 c s _ hc ih =>
    obtain ⟨hr, s₁, q, u, hq, hu, rfl⟩ := ih h
    exact ⟨hr, TextRun.quotation hc hq hu⟩
  | case6 c s hn hc ih =>
    obtain ⟨t, rfl, h'⟩ := onto_eq_iff.mp h
    obtain ⟨hr, ht⟩ := ih h'
    refine ⟨hr, TextRun.apostrophe (fun d hd => ?_) ht⟩
    obtain rfl : c = d := by simpa using hd
    exact ⟨hn, by simpa using hc⟩
  | case7 c s _ _ hc =>
    obtain ⟨rfl, rfl⟩ := Prod.mk.inj h
    simp only [Bool.and_eq_true] at hc
    exact ⟨hc.2, TextRun.nil⟩
  | case8 c s _ hs hc ih =>
    -- a character for itself, or an apostrophe that ends the text
    obtain ⟨t, rfl, h'⟩ := onto_eq_iff.mp h
    obtain ⟨hr, ht⟩ := ih h'
    refine ⟨hr, ?_⟩
    by_cases hq : c = '\''
    · obtain rfl : s = [] := by
        cases s with
        | nil => rfl
        | cons d s => exact (hs d s hq rfl).elim
      rw [hq]
      exact TextRun.apostrophe (by simp) ht
    · refine TextRun.plain (isPlain_iff.mpr ⟨hq, ?_⟩) ht
      simpa [hq] using hc

/-- Text is read up to the first place where something else starts. -/
theorem text_eq_iff {scope : Scope} {s t r : List Char} :
    text scope false s = (t, r) ↔ TextRun scope s r t ∧ scope.stops r = true :=
  ⟨fun h => (text_sound h).symm, fun h => text_of_textRun h.1 h.2⟩

variable {scope : Scope} {s r : List Char}

theorem Quoted.length_add_le {s r t : List Char} (h : Quoted s r t) :
    t.length + r.length ≤ s.length := by
  induction h with
  | char _ _ ih => simp only [List.length_cons]; omega
  | apostrophe _ ih => simp only [List.length_cons]; omega
  | close _ => simp
  | endOfText => simp

/-- Text is no shorter than what it stands for. -/
theorem TextRun.length_add_le {t : List Char} (h : TextRun scope s r t) :
    t.length + r.length ≤ s.length := by
  induction h with
  | nil => simp
  | apostrophes _ ih => simp only [List.length_cons]; omega
  | quotation _ hq _ ih =>
    have hl := hq.length_add_le
    simp only [List.length_cons, List.length_append] at hl ⊢
    omega
  | apostrophe _ _ ih => simp only [List.length_cons]; omega
  | plain _ _ ih => simp only [List.length_cons]; omega

theorem TextRun.length_le {t : List Char} (h : TextRun scope s r t) : r.length ≤ s.length :=
  Nat.le_trans (Nat.le_add_left _ _) h.length_add_le

/-- Text that stands for something starts with a character that stops no text. -/
theorem TextRun.head {t : List Char} (h : TextRun scope s r t) (ht : t ≠ []) :
    ∃ c s', s = c :: s' ∧ scope.stops s = false ∧ r.length ≤ s'.length := by
  have hq : ∀ s, scope.stops ('\'' :: s) = false := by simp [Scope.stops]
  cases h with
  | nil => exact absurd rfl ht
  | apostrophes h =>
    have hl := h.length_le
    exact ⟨_, _, rfl, hq _, by simp only [List.length_cons]; omega⟩
  | quotation _ hquoted h =>
    have hl := h.length_le
    have hl' := hquoted.length_add_le
    exact ⟨_, _, rfl, hq _, by omega⟩
  | apostrophe _ h => exact ⟨_, _, rfl, hq _, h.length_le⟩
  | plain hc h => exact ⟨_, _, rfl, (isPlain_iff.mp hc).2, h.length_le⟩

/-- Where text could go on, some is read. -/
theorem TextRun.ne_nil {t : List Char} (h : TextRun scope s r t) (hs : scope.stops s = false)
    (hr : scope.stops r = true) : t ≠ [] := by
  cases h with
  | nil => simp [hs] at hr
  | apostrophes h => simp
  | quotation hc hq h =>
    intro ht
    cases hq with
    | char => simp at ht
    | apostrophe => simp at ht
    | close => revert hc; decide
  | apostrophe _ h => simp
  | plain hc h => simp

theorem text_length {c : Char} (hs : scope.stops (c :: s) = false) :
    (text scope false (c :: s)).2.length ≤ s.length := by
  obtain ⟨t, r, ht⟩ : ∃ t r, text scope false (c :: s) = (t, r) := ⟨_, _, rfl⟩
  obtain ⟨hrun, hr⟩ := text_eq_iff.mp ht
  obtain ⟨d, s', heq, -, hl⟩ := hrun.head (hrun.ne_nil hs hr)
  rw [ht, (List.cons.inj heq).2]
  exact hl

end MessageFormat.Pattern.Grammar
