import Mathlib.Data.List.TakeDrop
import MessageFormat.Proofs.Pattern.Grammar
import MessageFormat.Proofs.Text.Letter

/-!
The readers of blanks, names, keys and literals read exactly those words of the grammar, each as far
as it goes.
-/

set_option autoImplicit false

namespace MessageFormat.Pattern.Grammar

open Text

/-! Character classes. -/

theorem isKeyChar_of_isBlank {c : Char} (h : isBlank c = true) : isKeyChar c = false := by
  simp [isKeyChar, h]

/-! Runs. -/

theorem span_eq_iff {p : Char → Bool} {s w r : List Char} :
    s.span p = (w, r) ↔ s = w ++ r ∧ (∀ c ∈ w, p c = true) ∧ Ends p r := by
  rw [List.span_eq_takeWhile_dropWhile]
  constructor
  · intro h
    obtain ⟨rfl, rfl⟩ := Prod.mk.inj h
    refine ⟨List.takeWhile_append_dropWhile.symm, List.all_eq_true.mp List.all_takeWhile, ?_⟩
    intro c hc
    have hd := List.head?_dropWhile_not p s
    rw [Option.mem_def] at hc
    simpa [hc] using hd
  · intro hx
    obtain ⟨rfl, hw, hr⟩ := hx
    have hd : r.takeWhile p = [] ∧ r.dropWhile p = r := by
      cases r with
      | nil => simp
      | cons c r => simp [hr c (by simp)]
    simp [List.takeWhile_append_of_pos hw, List.dropWhile_append_of_pos hw, hd]

theorem run?_eq_some_iff {p : Char → Bool} {s w r : List Char} :
    run? p s = some (w, r) ↔ w ≠ [] ∧ (∀ c ∈ w, p c = true) ∧ s = w ++ r ∧ Ends p r := by
  have hs : run? p s = some (w, r) ↔ w ≠ [] ∧ s.span p = (w, r) := by
    unfold run?
    split
    · rename_i r' h
      constructor
      · simp
      · intro hx
        obtain ⟨hw, hr⟩ := hx
        rw [h] at hr
        exact absurd (congrArg Prod.fst hr).symm hw
    · rename_i q hq
      constructor
      · intro h
        have hq' := Option.some.inj h
        refine ⟨fun hw => hq r ?_, hq'⟩
        rw [hq', hw]
      · intro hx
        obtain ⟨-, h⟩ := hx
        rw [h]
  rw [hs, span_eq_iff, and_left_comm (a := s = w ++ r)]

theorem run?_eq_none_iff {p : Char → Bool} {s : List Char} : run? p s = none ↔ Ends p s := by
  cases s with
  | nil => simp [run?, List.span_eq_takeWhile_dropWhile, Ends]
  | cons c s => cases hc : p c <;> simp [run?, List.span_eq_takeWhile_dropWhile, hc, Ends]

/-! Blanks. -/

theorem blanks_refl (s : List Char) : Blanks s s := ⟨[], by simp, rfl⟩

theorem blanks_skipBlanks (s : List Char) : Blanks s (skipBlanks s) :=
  ⟨s.takeWhile isBlank, List.all_eq_true.mp List.all_takeWhile,
    List.takeWhile_append_dropWhile.symm⟩

theorem skipBlanks_of_blanks {s r : List Char} (h : Blanks s r) (hr : Ends isBlank r) :
    skipBlanks s = r := by
  obtain ⟨b, hb, rfl⟩ := h
  rw [skipBlanks, List.dropWhile_append_of_pos hb]
  cases r with
  | nil => rfl
  | cons c r => simp [hr c (by simp)]

theorem skipBlanks_eq_iff {s r : List Char} {c : Char} (hc : isBlank c = false) :
    skipBlanks s = c :: r ↔ Blanks s (c :: r) := by
  constructor
  · intro h
    rw [← h]
    exact blanks_skipBlanks s
  · intro h
    exact skipBlanks_of_blanks h (by simp [Ends, hc])

/-- Words end where blanks or a mark follow. -/
theorem Blanks.ends {p : Char → Bool} {s r : List Char} {c : Char} (h : Blanks s (c :: r))
    (hp : ∀ b, isBlank b = true → p b = false) (hc : p c = false) : Ends p s := by
  obtain ⟨b, hb, rfl⟩ := h
  cases b with
  | nil => simp [Ends, hc]
  | cons d b => simp [Ends, hp d (hb d (by simp))]

/-! Names and keys. -/

theorem IsName.ends_isBlank {x : String} (h : IsName x) (r : List Char) :
    Ends isBlank (x.toList ++ r) := by
  obtain ⟨c, w, hw⟩ := List.exists_cons_of_ne_nil h.1
  have hc := h.2 c (by simp [hw])
  cases hb : isBlank c with
  | false => simp [Ends, hw, hb]
  | true => simp [isNameChar_of_isBlank hb] at hc

theorem expectName_eq_ok_iff {flaw : Flaw} {s r : List Char} {x : String} :
    expectName flaw s = .ok (x, r) ↔ IsName x ∧ s = x.toList ++ r ∧ Ends isNameChar r := by
  unfold expectName name?
  constructor
  · intro h
    split at h
    · rename_i w r' hw
      obtain ⟨rfl, rfl⟩ := Prod.mk.inj (Except.ok.inj h)
      obtain ⟨hw, hp, hs, hr⟩ := run?_eq_some_iff.mp hw
      exact ⟨⟨by simpa using hw, by simpa using hp⟩, by simpa using hs, hr⟩
    · cases h
  · intro hall
    obtain ⟨hx, rfl, hr⟩ := hall
    rw [run?_eq_some_iff.mpr ⟨hx.1, hx.2, rfl, hr⟩]
    simp

/-- A name after blanks. -/
theorem expectName_skipBlanks {flaw : Flaw} {s r : List Char} {x : String} :
    expectName flaw (skipBlanks s) = .ok (x, r) ↔
      IsName x ∧ Blanks s (x.toList ++ r) ∧ Ends isNameChar r := by
  rw [expectName_eq_ok_iff]
  constructor
  · intro h
    obtain ⟨hx, hs, hr⟩ := h
    exact ⟨hx, hs ▸ blanks_skipBlanks s, hr⟩
  · intro h
    obtain ⟨hx, hs, hr⟩ := h
    exact ⟨hx, skipBlanks_of_blanks hs (hx.ends_isBlank r), hr⟩

theorem selectKey_eq_ok_iff {s r : List Char} {x : String} :
    selectKey s = .ok (x, r) ↔ IsSelectKey x ∧ s = x.toList ++ r ∧ Ends isKeyChar r := by
  unfold selectKey selectKey?
  constructor
  · intro h
    split at h
    · rename_i w r' hw
      obtain ⟨rfl, rfl⟩ := Prod.mk.inj (Except.ok.inj h)
      obtain ⟨hw, hp, hs, hr⟩ := run?_eq_some_iff.mp hw
      exact ⟨⟨by simpa using hw, by simpa using hp⟩, by simpa using hs, hr⟩
    · cases h
  · intro hall
    obtain ⟨hx, rfl, hr⟩ := hall
    rw [run?_eq_some_iff.mpr ⟨hx.1, hx.2, rfl, hr⟩]
    simp

/-! Literals. -/

theorem between_append (w r : List Char) : between (w ++ r) r = w := by
  simp [between]

theorem between_cons_append (c : Char) (w r : List Char) : between (c :: (w ++ r)) r = c :: w :=
  between_append (c :: w) r

theorem IsDigits.not_mem {w : List Char} (h : IsDigits w) {c : Char} (hc : isDigit c = false) :
    c ∉ w := fun hm => ne_of_isDigit (h.2 c hm) hc rfl

theorem fraction_of_point {f r : List Char} (hf : IsDigits f) (hr : Ends isDigit r) :
    fraction ('.' :: (f ++ r)) = (f, r) := by
  simp [fraction, run?_eq_some_iff.mpr ⟨hf.1, hf.2, rfl, hr⟩]

theorem fraction_of_no_point {t : List Char} (h : ∀ f r, IsDigits f → t ≠ '.' :: (f ++ r)) :
    fraction t = ([], t) := by
  unfold fraction
  split
  · rename_i r
    cases hr : run? isDigit r with
    | none => rfl
    | some q =>
      obtain ⟨f, r'⟩ := q
      obtain ⟨hf, hd, rfl, -⟩ := run?_eq_some_iff.mp hr
      exact absurd rfl (h f r' ⟨hf, hd⟩)
  · rfl

theorem fraction_cases (t : List Char) :
    ((∀ f r, IsDigits f → t ≠ '.' :: (f ++ r)) ∧ fraction t = ([], t)) ∨
      ∃ f r, IsDigits f ∧ Ends isDigit r ∧ t = '.' :: (f ++ r) ∧ fraction t = (f, r) := by
  by_cases h : ∃ f r, IsDigits f ∧ t = '.' :: (f ++ r)
  · obtain ⟨f, r, hf, rfl⟩ := h
    obtain ⟨w, q, hw⟩ : ∃ w q, run? isDigit (f ++ r) = some (w, q) := by
      cases hn : run? isDigit (f ++ r) with
      | some p => exact ⟨p.1, p.2, rfl⟩
      | none =>
        obtain ⟨c, f, rfl⟩ := List.exists_cons_of_ne_nil hf.1
        have hc := run?_eq_none_iff.mp hn c (by simp)
        simp [hf.2 c (by simp)] at hc
    obtain ⟨hn, hd, hs, hq⟩ := run?_eq_some_iff.mp hw
    refine .inr ⟨w, q, ⟨hn, hd⟩, hq, by rw [hs], ?_⟩
    rw [hs]
    exact fraction_of_point ⟨hn, hd⟩ hq
  · have hn : ∀ f r, IsDigits f → t ≠ '.' :: (f ++ r) := fun f r hf ht => h ⟨f, r, hf, ht⟩
    exact .inl ⟨hn, fraction_of_no_point hn⟩

theorem decimal?_digits (negative : Bool) {w t : List Char} (hw : IsDigits w)
    (ht : Ends isDigit t) :
    decimal? (minus negative ++ (w ++ t)) =
      some (⟨negative, digitsValue (w ++ (fraction t).1), -((fraction t).1.length : Int)⟩,
        (fraction t).2) := by
  have hr := run?_eq_some_iff.mpr ⟨hw.1, hw.2, rfl, ht⟩
  cases negative with
  | true => simp [decimal?, minus, hr]
  | false =>
    obtain ⟨c, w, rfl⟩ := List.exists_cons_of_ne_nil hw.1
    have hc : c ≠ '-' := ne_of_isDigit (hw.2 c (by simp)) (by decide)
    simp only [List.cons_append] at hr
    simp [decimal?, minus, hc, hr]

theorem digits_of_decimal? {s r : List Char} {value : Decimal} (h : decimal? s = some (value, r)) :
    ∃ negative w t, s = minus negative ++ (w ++ t) ∧ IsDigits w ∧ Ends isDigit t := by
  obtain ⟨negative, u, rfl, hu⟩ : ∃ negative u, s = minus negative ++ u ∧ run? isDigit u ≠ none := by
    by_cases hs : ∃ u, s = '-' :: u
    · obtain ⟨u, rfl⟩ := hs
      exact ⟨true, u, rfl, fun hn => by simp [decimal?, hn] at h⟩
    · refine ⟨false, s, rfl, fun hn => ?_⟩
      unfold decimal? at h
      split at h
      rename_i heq
      split at heq
      · exact hs ⟨_, rfl⟩
      · obtain ⟨rfl, rfl⟩ := Prod.mk.inj heq
        simp [hn] at h
  obtain ⟨q, hq⟩ := Option.ne_none_iff_exists'.mp hu
  obtain ⟨hw, hd, rfl, ht⟩ := run?_eq_some_iff.mp hq
  exact ⟨negative, q.1, q.2, rfl, ⟨hw, hd⟩, ht⟩

theorem decimal?_eq_some_iff {s r : List Char} {value : Decimal} :
    decimal? s = some (value, r) ↔ Literal s r value := by
  constructor
  · intro h
    obtain ⟨negative, w, t, rfl, hw, ht⟩ := digits_of_decimal? h
    rw [decimal?_digits negative hw ht] at h
    obtain ⟨rfl, rfl⟩ := Prod.mk.inj (Option.some.inj h)
    rcases fraction_cases t with ⟨hn, hf⟩ | ⟨f, r, hf, hr, rfl, hq⟩
    · refine ⟨minus negative ++ w, by simp [hf], ?_, by simpa [hf] using ht,
        fun _ => by simpa [hf] using hn⟩
      simpa [hf] using IsLiteral.whole negative hw
    · refine ⟨minus negative ++ (w ++ '.' :: f), by simp [hq], ?_, by simpa [hq] using hr, by simp⟩
      simpa [hq] using IsLiteral.fraction negative hw hf
  · intro hx
    obtain ⟨w, rfl, hw, hr, hn⟩ := hx
    cases hw with
    | @whole negative w hw =>
      have hp : '.' ∉ minus negative ++ w := by
        have hd := hw.not_mem (c := '.') (by decide)
        cases negative <;> simp [minus, hd]
      rw [List.append_assoc, decimal?_digits negative hw hr, fraction_of_no_point (hn hp)]
      simp
    | @fraction negative w f hw hf =>
      have ht : Ends isDigit ('.' :: (f ++ r)) := by simp [Ends]; decide
      have hs : minus negative ++ (w ++ '.' :: f) ++ r =
          minus negative ++ (w ++ '.' :: (f ++ r)) := by simp
      rw [hs, decimal?_digits negative hw ht, fraction_of_point hf hr]

end MessageFormat.Pattern.Grammar
