import Mathlib.Tactic.SplitIfs
import MessageFormat.Proofs.Decimal.Positional
import MessageFormat.Text.Blank
import MessageFormat.Text.Entity
import MessageFormat.Text.Quoted

/-!
Texts that no tag can start or end in, and what is made of such texts and of numbers.
-/

set_option autoImplicit false

namespace MessageFormat.Text

/-- The characters that enclose tags. -/
def isAngle (c : Char) : Bool := c == '<' || c == '>'

/-- Without angle brackets. -/
def Unmarked (s : List Char) : Prop := ∀ c ∈ s, isAngle c = false

instance (s : List Char) : Decidable (Unmarked s) := List.decidableBAll (isAngle · = false) s

variable {c : Char} {s t : List Char} {n : Nat}

/-! Parts of texts, and texts of parts. -/

@[simp] theorem unmarked_nil : Unmarked [] := fun _ h => (List.not_mem_nil h).elim

@[simp] theorem unmarked_cons : Unmarked (c :: s) ↔ isAngle c = false ∧ Unmarked s :=
  List.forall_mem_cons

@[simp] theorem unmarked_append : Unmarked (s ++ t) ↔ Unmarked s ∧ Unmarked t :=
  List.forall_mem_append

@[simp] theorem unmarked_ite {p : Prop} [Decidable p] :
    Unmarked (if p then s else t) ↔ (p → Unmarked s) ∧ (¬ p → Unmarked t) := by
  split <;> simp [*]

theorem Unmarked.subset (h : Unmarked s) (hts : t ⊆ s) : Unmarked t := fun c hc => h c (hts hc)

theorem Unmarked.flatMap {f : Char → List Char} (h : Unmarked s)
    (hf : ∀ c, isAngle c = false → Unmarked (f c)) : Unmarked (s.flatMap f) := by
  intro c hc
  obtain ⟨d, hd, hc⟩ := List.mem_flatMap.mp hc
  exact hf d (h d hd) c hc

theorem Unmarked.map {f : Char → Char} (h : Unmarked s)
    (hf : ∀ c, isAngle c = false → isAngle (f c) = false) : Unmarked (s.map f) := by
  intro c hc
  obtain ⟨d, hd, rfl⟩ := List.mem_map.mp hc
  exact hf d (h d hd)

theorem unmarked_replicate (n : Nat) (h : isAngle c = false) : Unmarked (List.replicate n c) :=
  fun _ hd => List.eq_of_mem_replicate hd ▸ h

theorem unmarked_intercalate {parts : List (List Char)} (hs : Unmarked s)
    (h : ∀ p ∈ parts, Unmarked p) : Unmarked (s.intercalate parts) := by
  induction parts with
  | nil => exact unmarked_nil
  | cons p parts ih =>
    obtain ⟨hp, hparts⟩ := List.forall_mem_cons.mp h
    cases parts with
    | nil => simpa [List.intercalate] using hp
    | cons q parts =>
      have hrest := ih hparts
      rw [List.intercalate_cons_cons]
      simp [hp, hs, hrest]

theorem unmarked_trim (h : Unmarked s) : Unmarked (trim s) :=
  h.subset fun _ hc => (List.dropWhile_sublist _).subset
    (List.mem_reverse.mp ((List.dropWhile_sublist _).subset (List.mem_reverse.mp hc)))

theorem unmarked_pieces {sep : Char → Bool} (h : Unmarked s) : ∀ p ∈ pieces sep s, Unmarked p := by
  induction s with
  | nil => simp [pieces]
  | cons c s ih =>
    obtain ⟨hc, hs⟩ := unmarked_cons.mp h
    have hpieces := ih hs
    unfold pieces
    split
    · exact List.forall_mem_cons.mpr ⟨unmarked_nil, hpieces⟩
    · split
      · simp [hc]
      · rename_i p parts heq
        rw [heq] at hpieces
        obtain ⟨hp, hparts⟩ := List.forall_mem_cons.mp hpieces
        exact List.forall_mem_cons.mpr ⟨unmarked_cons.mpr ⟨hc, hp⟩, hparts⟩

theorem unmarked_fields {sep : Char → Bool} (h : Unmarked s) : ∀ p ∈ fields sep s, Unmarked p :=
  fun p hp => unmarked_pieces h p (List.mem_filter.mp hp).1

/-- What follows the first occurrence of a mark. -/
theorem unmarked_of_cut {mark : Char} (h : Unmarked s) (hcut : (cut mark s).2 = some t) :
    Unmarked t := by
  induction s with
  | nil => cases hcut
  | cons c s ih =>
    have hs := (unmarked_cons.mp h).2
    unfold cut at hcut
    split at hcut
    · rwa [← Option.some.inj hcut]
    · exact ih hs hcut

theorem unmarked_of_strip? {p : List Char} (h : Unmarked s) (hstrip : strip? p s = some t) :
    Unmarked t := by
  unfold strip? at hstrip
  split at hstrip
  · rw [← Option.some.inj hstrip]
    exact h.subset (List.drop_subset _ _)
  · cases hstrip

theorem unmarked_replaceAll {old new : List Char} (hnew : Unmarked new) (h : Unmarked s) :
    Unmarked (replaceAll old new s) := by
  have hgo : ∀ n s, Unmarked s → Unmarked (replaceAll.go old new n s) := by
    intro n
    induction n with
    | zero => exact fun s hs => hs
    | succ n ih =>
      intro s hs
      cases s with
      | nil => exact unmarked_nil
      | cons c s =>
        unfold replaceAll.go
        split
        · exact unmarked_append.mpr ⟨hnew, ih _ (hs.subset (List.drop_subset _ _))⟩
        · exact unmarked_cons.mpr ⟨(unmarked_cons.mp hs).1, ih _ (unmarked_cons.mp hs).2⟩
  exact hgo s.length s h

/-! Numbers. -/

theorem isAngle_of_isDigit (h : c.isDigit = true) : isAngle c = false := by
  rw [isAngle, Bool.or_eq_false_iff, beq_eq_false_iff_ne, beq_eq_false_iff_ne]
  constructor <;> (rintro rfl; exact absurd h (by decide))

@[simp] theorem unmarked_natDigits : Unmarked (natDigits n) :=
  fun c hc => isAngle_of_isDigit (Decimal.ascii_of_natDigits c hc)

@[simp] theorem unmarked_padZeros {width : Nat} : Unmarked (padZeros width s) ↔ Unmarked s := by
  have hzeros : Unmarked (List.replicate (width - s.length) '0') := unmarked_replicate _ (by decide)
  simp [padZeros, hzeros]

@[simp] theorem unmarked_intText {n : Int} : Unmarked (intText n) := by
  unfold intText
  split
  · exact unmarked_cons.mpr ⟨by decide, unmarked_natDigits⟩
  · exact unmarked_natDigits

@[simp] theorem isAngle_sign {p : Prop} [Decidable p] :
    isAngle (if p then '-' else '+') = false := by
  split <;> decide

theorem isAngle_digitChar (n : Nat) : isAngle (Nat.digitChar n) = false := by
  have hdigits : ∀ m < 16, isAngle (Nat.digitChar m) = false := by decide
  rcases Nat.lt_or_ge n 16 with h | h
  · exact hdigits n h
  · have hother : Nat.digitChar n = '*' := by
      unfold Nat.digitChar
      iterate 16 rw [if_neg (by omega)]
    rw [hother]
    decide

theorem unmarked_toDigits (base n : Nat) : Unmarked (Nat.toDigits base n) := by
  have hcore : ∀ fuel n s, Unmarked s → Unmarked (Nat.toDigitsCore base fuel n s) := by
    intro fuel
    induction fuel with
    | zero => exact fun n s hs => hs
    | succ fuel ih =>
      intro n s hs
      unfold Nat.toDigitsCore
      dsimp only
      split
      · exact unmarked_cons.mpr ⟨isAngle_digitChar _, hs⟩
      · exact ih _ _ (unmarked_cons.mpr ⟨isAngle_digitChar _, hs⟩)
  exact hcore _ _ _ unmarked_nil

theorem unmarked_toString (n : Nat) : Unmarked (toString n).toList := by
  rw [Nat.toString_eq_ofList_toDigits, String.toList_ofList]
  exact unmarked_toDigits 10 n

@[simp] theorem unmarked_hexDigits {width : Nat} : Unmarked (hexDigits width n) :=
  unmarked_padZeros.mpr (unmarked_toDigits 16 n)

/-! Escaped and quoted text. -/

/-- Nothing is left of brackets when a text is escaped. -/
theorem unmarked_escape (s : List Char) : Unmarked (escape s) := by
  intro c hc
  obtain ⟨d, -, hc⟩ := List.mem_flatMap.mp hc
  have hd : Unmarked (escapeChar d) := by
    unfold escapeChar
    split_ifs
    any_goals decide
    simp [isAngle, *]
  exact hd c hc

theorem unmarked_codePoint (c : Char) : Unmarked (codePoint c) := by
  unfold codePoint
  split
  · simp [isAngle]
  · split <;> simp [isAngle]

theorem unmarked_quoteChar {mark : Char} (h : isAngle c = false) : Unmarked (quoteChar mark c) := by
  have hbackslash : isAngle '\\' = false := by decide
  unfold quoteChar
  split_ifs
  any_goals decide
  · simp [hbackslash, h]
  · simp [h]
  · simp [h]
  · exact unmarked_codePoint c

theorem unmarked_quote (h : Unmarked s) : Unmarked (quote s) := by
  have hmark : isAngle (quoteMark s) = false := by
    unfold quoteMark
    split <;> decide
  have hbody : Unmarked (s.flatMap (quoteChar (quoteMark s))) :=
    h.flatMap fun c hc => unmarked_quoteChar hc
  simp [quote, hmark, hbody]

theorem unmarked_quoteAscii (h : Unmarked s) : Unmarked (quoteAscii s) := by
  refine (unmarked_quote h).flatMap fun c hc => ?_
  unfold asciiChar
  split
  · simp [hc]
  · exact unmarked_codePoint c

end MessageFormat.Text
