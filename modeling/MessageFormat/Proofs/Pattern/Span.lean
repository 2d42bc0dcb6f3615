import Mathlib.Data.List.Induction
import MessageFormat.Pattern.Cursor
import MessageFormat.Proofs.Pattern.Location

/-!
Lines and columns. They count the line ends in front of a place and the characters since the last of
them, so a place is known by them.
-/

set_option autoImplicit false

namespace MessageFormat.Pattern

/-- The characters since the last line end in front of `start`, from one. -/
def IsColumn (p : List Char) (start column : Nat) : Prop :=
  (∃ k < start, p[k]? = some '\n' ∧ (∀ j, k < j → j < start → p[j]? ≠ some '\n') ∧
    column = start - k) ∨
  ((∀ j < start, p[j]? ≠ some '\n') ∧ column = start + 1)

theorem position_append_singleton (s : List Char) (c : Char) :
    position (s ++ [c]) =
      if c = '\n' then ((position s).1 + 1, 1) else ((position s).1, (position s).2 + 1) := by
  simp [position]

theorem position_line (s : List Char) : (position s).1 = 1 + s.count '\n' := by
  induction s using List.reverseRecOn with
  | nil => rfl
  | append_singleton s c ih =>
    rw [position_append_singleton]
    by_cases hc : c = '\n'
    · simp [hc, ih]
      omega
    · simp [hc, ih]

theorem isColumn_position (p : List Char) {start : Nat} (h : start ≤ p.length) :
    IsColumn p start (position (p.take start)).2 := by
  induction start with
  | zero => exact .inr ⟨by simp, rfl⟩
  | succ start ih =>
    have hp : p[start]? = some p[start] := List.getElem?_eq_getElem (by omega)
    rw [List.take_succ_eq_append_getElem (by omega), position_append_singleton]
    by_cases hc : p[start] = '\n'
    · rw [if_pos hc]
      refine .inl ⟨start, by omega, by rw [hp, hc], fun j hj hj' => ?_, by omega⟩
      omega
    · rw [if_neg hc]
      have hlast : ∀ j, start ≤ j → j < start + 1 → p[j]? ≠ some '\n' := by
        intro j hj hj'
        obtain rfl : j = start := by omega
        simpa [hp] using hc
      rcases ih (by omega) with ⟨k, hk, hpk, hn, hcol⟩ | ⟨hn, hcol⟩
      · refine .inl ⟨k, by omega, hpk, fun j hj hj' => ?_, by omega⟩
        by_cases hjs : j < start
        · exact hn j hj hjs
        · exact hlast j (by omega) hj'
      · refine .inr ⟨fun j hj => ?_, by omega⟩
        by_cases hjs : j < start
        · exact hn j hjs
        · exact hlast j (by omega) hj

theorem IsColumn.unique {p : List Char} {start a b : Nat} (ha : IsColumn p start a)
    (hb : IsColumn p start b) : a = b := by
  rcases ha with ⟨k, hk, hpk, hn, rfl⟩ | ⟨hn, rfl⟩
  · rcases hb with ⟨k', hk', hpk', hn', rfl⟩ | ⟨hn', -⟩
    · rcases Nat.lt_trichotomy k k' with h | rfl | h
      · exact absurd hpk' (hn k' h hk')
      · rfl
      · exact absurd hpk (hn' k h hk)
    · exact absurd hpk (hn' k hk)
  · rcases hb with ⟨k', hk', hpk', -, -⟩ | ⟨-, rfl⟩
    · exact absurd hpk' (hn k' hk')
    · rfl

/-- Farther on, the line is greater, or it is the same and the column is greater. -/
theorem position_lt (s t : List Char) (ht : t ≠ []) :
    (position s).1 < (position (s ++ t)).1 ∨
      (position s).1 = (position (s ++ t)).1 ∧ (position s).2 < (position (s ++ t)).2 := by
  induction t using List.reverseRecOn with
  | nil => exact absurd rfl ht
  | append_singleton t c ih =>
    -- a line end resets the column but then the line has grown
    rw [← List.append_assoc, position_append_singleton]
    have hle : (position s).1 < (position (s ++ t)).1 ∨
        (position s).1 = (position (s ++ t)).1 ∧ (position s).2 ≤ (position (s ++ t)).2 := by
      by_cases h : t = []
      · simp [h]
      · rcases ih h with h | h
        · exact .inl h
        · exact .inr ⟨h.1, Nat.le_of_lt h.2⟩
    split <;> omega

theorem place_eq_of_position {p : List Char} {a b : Nat} (ha : a ≤ p.length) (hb : b ≤ p.length)
    (h : position (p.take a) = position (p.take b)) : a = b := by
  have hlt : ∀ {a b : Nat}, a < b → b ≤ p.length → position (p.take a) ≠ position (p.take b) := by
    intro a b hab hb h
    obtain ⟨t, ht⟩ := List.take_prefix_take_left (l := p) (Nat.le_of_lt hab)
    have hne : t ≠ [] := by
      intro hx
      subst hx
      have hl := congrArg List.length ht
      simp only [List.append_nil, List.length_take] at hl
      omega
    have hp := position_lt (p.take a) t hne
    rw [ht, h] at hp
    omega
  rcases Nat.lt_trichotomy a b with hab | hab | hab
  · exact absurd h (hlt hab hb)
  · exact hab
  · exact absurd h.symm (hlt hab ha)

/-! Spans. -/

namespace Cursor

variable {p : List Char} {start : Nat}

theorem lineEnds_succ (h : start < p.length) :
    (Cursor.mk p (start + 1)).lineEnds =
      (Cursor.mk p start).lineEnds ++ if p[start] = '\n' then [start] else [] := by
  have hl : (p.take start).length = start := by rw [List.length_take]; omega
  simp only [lineEnds, List.take_succ_eq_append_getElem h, List.zipIdx_append, List.filter_append,
    List.map_append, hl]
  by_cases hc : p[start] = '\n' <;> simp [hc]

/-- A cursor counts lines and columns as a fold over the text in front of it does. -/
theorem position_mk (h : start ≤ p.length) :
    (Cursor.mk p start).position = Pattern.position (p.take start) := by
  induction start with
  | zero => simp [position, lineEnds, Pattern.position]
  | succ start ih =>
    have hs : start < p.length := h
    rw [List.take_succ_eq_append_getElem hs, position_append_singleton, ← ih (Nat.le_of_lt hs)]
    simp only [position, lineEnds_succ hs]
    by_cases hc : p[start] = '\n'
    · simp [hc]
    · cases hk : (Cursor.mk p start).lineEnds.getLast? with
      | none => simp [hc, hk]
      | some k =>
        have hlt : k < start := by
          have hm := List.mem_of_getLast? hk
          simp only [lineEnds, List.mem_map, List.mem_filter] at hm
          obtain ⟨⟨c, j⟩, ⟨hm, -⟩, rfl⟩ := hm
          have := (List.mem_zipIdx hm).2.1
          simp only [List.length_take] at this
          omega
        simp [hc, hk]
        omega

theorem span_mk (h : start ≤ p.length) :
    (Cursor.mk p start).span =
      ⟨start, start, (Pattern.position (p.take start)).1, (Pattern.position (p.take start)).2⟩ := by
  simp [span, position_mk h]

end Cursor

theorem position_pos (s : List Char) : 1 ≤ (position s).1 ∧ 1 ≤ (position s).2 := by
  induction s using List.reverseRecOn with
  | nil => decide
  | append_singleton s c ih =>
    rw [position_append_singleton]
    split <;> simp [ih.1]

/-- What is shown of a place in a source is a span. -/
theorem check_emptySpan (p r : List Char) : (emptySpan p r).check = .ok (emptySpan p r) := by
  obtain ⟨hl, hc⟩ := position_pos (p.take (p.length - r.length))
  have hstart : ¬ (emptySpan p r).start < 0 := Int.not_lt.mpr (Int.natCast_nonneg _)
  have hstop : ¬ (emptySpan p r).stop < (emptySpan p r).start := Int.lt_irrefl _
  have hline : ¬ (emptySpan p r).line < 1 := Int.not_lt.mpr (Int.ofNat_le.mpr hl)
  have hcolumn : ¬ (emptySpan p r).column < 1 := Int.not_lt.mpr (Int.ofNat_le.mpr hc)
  rw [Span.check, if_neg hstart, if_neg hstop, if_neg hline, if_neg hcolumn]

/-- An empty span at a place of a text, with the line and the column of the place. -/
structure Locates (p : List Char) (start : Nat) (span : Span) : Prop where
  le : start ≤ p.length
  start_eq : span.start = start
  stop_eq : span.stop = start
  line_eq : span.line = 1 + (p.take start).count '\n'
  column_eq : ∃ column : Nat, span.column = column ∧ IsColumn p start column

theorem locates_emptySpan (p r : List Char) :
    Locates p (p.length - r.length) (emptySpan p r) where
  le := Nat.sub_le _ _
  start_eq := rfl
  stop_eq := rfl
  line_eq := congrArg Nat.cast (position_line (p.take (p.length - r.length)))
  column_eq := ⟨_, rfl, isColumn_position p (Nat.sub_le _ _)⟩

/-- A place is known by the line and the column that are shown. -/
theorem Locates.place_eq {p : List Char} {a b : Nat} {s t : Span} (ha : Locates p a s)
    (hb : Locates p b t) (hline : s.line = t.line) (hcolumn : s.column = t.column) : a = b := by
  obtain ⟨ca, hca, ha'⟩ := ha.column_eq
  obtain ⟨cb, hcb, hb'⟩ := hb.column_eq
  have hc : ca = cb := Int.ofNat.inj (hca.symm.trans (hcolumn.trans hcb))
  have hla := ha'.unique (isColumn_position p ha.le)
  have hlb := hb'.unique (isColumn_position p hb.le)
  have hl := ha.line_eq.symm.trans (hline.trans hb.line_eq)
  refine place_eq_of_position ha.le hb.le (Prod.ext ?_ ?_)
  · rw [position_line, position_line]
    omega
  · rw [← hla, ← hlb, hc]

end MessageFormat.Pattern
