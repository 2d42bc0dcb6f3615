import Mathlib.Data.List.TakeDrop
import MessageFormat.Number.Skeleton
import MessageFormat.Proofs.Text.Words

/-!
How the tokens of a skeleton are written.
-/

set_option autoImplicit false

namespace MessageFormat.Number.Token

/-- Required digits, optional ones, and a mark if there may be more. -/
inductive Limits (required : Char) : List Char → Nat → Nat → Prop
  | closed (least extra : Nat) :
      Limits required (List.replicate least required ++ List.replicate extra '#') least (least + extra)
  | opened (least extra : Nat) {mark : Char} (hmark : mark ∈ ['*', '+']) :
      Limits required (List.replicate least required ++ List.replicate extra '#' ++ [mark]) least
        maxDigits

/-- The token that a word is. -/
inductive Spells : List Char → Token → Prop
  | keyword {word : String} {t : Token} (h : (word, t) ∈ keywords) : Spells word.toList t
  | currency {code : List Char} (hcode : code ≠ []) :
      Spells ("currency".toList ++ '/' :: code) (.currency (String.ofList (Text.upper code)))
  | unit {stem : String} {id : List Char} (hstem : stem ∈ ["unit", "measure-unit"]) (hid : id ≠ []) :
      Spells (stem.toList ++ '/' :: id) (.unit (String.ofList id))
  | scale {factor : List Char} {d : Decimal} (hd : Decimal.read? factor = some d) :
      Spells ("scale".toList ++ '/' :: factor) (.scale d)
  | integerWidth {hashes zeros : Nat} (hpos : 0 < hashes + zeros) :
      Spells ("integer-width".toList ++ '/' :: (List.replicate hashes '#' ++ List.replicate zeros '0'))
        (.integerWidth zeros (some (hashes + zeros)))
  | openWidth {mark : Char} (hmark : mark ∈ ['*', '+']) (hashes zeros : Nat) :
      Spells
        ("integer-width".toList ++ '/' :: mark :: (List.replicate hashes '#' ++ List.replicate zeros '0'))
        (.integerWidth zeros none)
  | fraction {s : List Char} {least most : Nat} (h : Limits '0' s least most) :
      Spells ('.' :: s) (.fraction least most)
  | significant {s : List Char} {least most : Nat} (h : Limits '@' s least most) (hpos : 0 < least) :
      Spells s (.significant least most)
  | minInteger {least : Nat} (hpos : 0 < least) :
      Spells (List.replicate least '0') (.minInteger least)
  | scientific {sign : String} (hsign : sign ∈ ["", "+!", "+?"]) {digits : Nat} (hpos : 0 < digits) :
      Spells ('E' :: (sign.toList ++ List.replicate digits '0')) (.form .scientific)
  | engineering {sign : String} (hsign : sign ∈ ["", "+!", "+?"]) {digits : Nat} (hpos : 0 < digits) :
      Spells ('E' :: 'E' :: (sign.toList ++ List.replicate digits '0')) (.form .engineering)

section Counts

variable {c : Char} {s r : List Char} {n : Nat}

theorem countOf_cons_self (c : Char) (s : List Char) :
    countOf c (c :: s) = ((countOf c s).1 + 1, (countOf c s).2) := by
  simp [countOf, List.span_eq_takeWhile_dropWhile]

theorem countOf_cons_of_ne {d : Char} (h : d ≠ c) (s : List Char) : countOf c (d :: s) = (0, d :: s) := by
  simp [countOf, List.span_eq_takeWhile_dropWhile, h]

theorem countOf_append (h : r.head? ≠ some c) (n : Nat) :
    countOf c (List.replicate n c ++ r) = (n, r) := by
  induction n with
  | zero =>
    cases r with
    | nil => rfl
    | cons d r => exact countOf_cons_of_ne (fun hd => h (congrArg some hd)) r
  | succ n ih => rw [List.replicate_succ, List.cons_append, countOf_cons_self, ih]

theorem eq_of_countOf (h : countOf c s = (n, r)) : s = List.replicate n c ++ r := by
  induction s generalizing n with
  | nil =>
    obtain ⟨rfl, rfl⟩ := Prod.mk.inj h
    rfl
  | cons d s ih =>
    by_cases hd : d = c
    · subst hd
      rw [countOf_cons_self] at h
      obtain ⟨rfl, hr⟩ := Prod.mk.inj h
      rw [List.replicate_succ, List.cons_append, ← ih (Prod.ext rfl hr)]
    · rw [countOf_cons_of_ne hd] at h
      obtain ⟨rfl, rfl⟩ := Prod.mk.inj h
      rfl

theorem countOf_replicate (c : Char) (n : Nat) : countOf c (List.replicate n c) = (n, []) := by
  have hall := countOf_append (c := c) (r := []) nofun n
  rwa [List.append_nil] at hall

end Counts

section Readers

variable {required : Char} {s : List Char} {t : Token} {least most : Nat}

/-- Optional digits and a mark are no required ones. -/
theorem head?_optional_ne (hrequired : required ∉ ['#', '*', '+']) (extra : Nat) {tail : List Char}
    (htail : ∀ d ∈ tail.head?, d ∈ ['*', '+']) :
    (List.replicate extra '#' ++ tail).head? ≠ some required := by
  intro hhead
  cases extra with
  | zero => exact hrequired (List.mem_cons_of_mem _ (htail required hhead))
  | succ extra =>
    obtain rfl := Option.some.inj hhead
    exact hrequired List.mem_cons_self

theorem limits_of_readLimits (h : readLimits required s = some (least, most)) :
    Limits required s least most := by
  rcases hrequired : countOf required s with ⟨n, r⟩
  rcases hextra : countOf '#' r with ⟨extra, tail⟩
  simp only [readLimits, hrequired, hextra] at h
  rw [eq_of_countOf hrequired, eq_of_countOf hextra, ← List.append_assoc]
  split at h
  · cases h
    rw [List.append_nil]
    exact .closed _ extra
  · cases h
    exact .opened _ extra (by decide)
  · cases h
    exact .opened _ extra (by decide)
  · cases h

theorem Limits.exists_tail (h : Limits required s least most) :
    ∃ extra tail, s = List.replicate least required ++ (List.replicate extra '#' ++ tail) ∧
      (∀ d ∈ tail.head?, d ∈ ['*', '+']) ∧
      (tail = [] ∧ most = least + extra ∨ (tail = ['*'] ∨ tail = ['+']) ∧ most = maxDigits) := by
  cases h with
  | closed _ extra => exact ⟨extra, [], by rw [List.append_nil], nofun, .inl ⟨rfl, rfl⟩⟩
  | @opened _ extra mark hmark =>
    refine ⟨extra, [mark], List.append_assoc .., fun d hd => Option.some.inj hd ▸ hmark, .inr ⟨?_, rfl⟩⟩
    simpa using hmark

theorem readLimits_of_limits (hrequired : required ∉ ['#', '*', '+'])
    (h : Limits required s least most) : readLimits required s = some (least, most) := by
  obtain ⟨extra, tail, rfl, hmarks, htail⟩ := h.exists_tail
  have hleast := countOf_append (head?_optional_ne hrequired extra hmarks) least
  have hextra : countOf '#' (List.replicate extra '#' ++ tail) = (extra, tail) :=
    countOf_append (fun hhead => absurd (hmarks '#' hhead) (by decide)) extra
  simp only [readLimits, hleast, hextra]
  rcases htail with ⟨rfl, rfl⟩ | ⟨rfl | rfl, rfl⟩ <;> rfl

theorem Limits.pos (hrequired : required ∉ ['#', '*', '+']) {r : List Char}
    (h : Limits required (required :: r) least most) : 0 < least := by
  obtain ⟨extra, tail, hs, hmarks, -⟩ := h.exists_tail
  refine Nat.pos_of_ne_zero ?_
  rintro rfl
  exact head?_optional_ne hrequired extra hmarks (congrArg List.head? hs).symm

theorem readFraction_eq_some_iff : readFraction s = some t ↔
    ∃ r least most, s = '.' :: r ∧ Limits '0' r least most ∧ t = .fraction least most := by
  constructor
  · intro h
    unfold readFraction at h
    split at h
    · obtain ⟨⟨least, most⟩, hlimits, rfl⟩ := Option.map_eq_some_iff.mp h
      exact ⟨_, least, most, rfl, limits_of_readLimits hlimits, rfl⟩
    · cases h
  · rintro ⟨r, least, most, rfl, hlimits, rfl⟩
    rw [readFraction, readLimits_of_limits (by decide) hlimits]
    rfl

theorem readSignificant_eq_some_iff : readSignificant s = some t ↔
    ∃ least most, Limits '@' s least most ∧ 0 < least ∧ t = .significant least most := by
  constructor
  · intro h
    unfold readSignificant at h
    split at h
    · rename_i r
      obtain ⟨⟨least, most⟩, hread, rfl⟩ := Option.map_eq_some_iff.mp h
      have hlimits := limits_of_readLimits hread
      exact ⟨least, most, hlimits, hlimits.pos (by decide), rfl⟩
    · cases h
  · rintro ⟨least, most, hlimits, hpos, rfl⟩
    obtain ⟨r, rfl⟩ : ∃ r, s = '@' :: r := by
      obtain ⟨n, rfl⟩ := Nat.exists_eq_succ_of_ne_zero (Nat.ne_of_gt hpos)
      obtain ⟨extra, tail, hs, -⟩ := hlimits.exists_tail
      exact ⟨_, hs⟩
    rw [readSignificant, readLimits_of_limits (by decide) hlimits]
    rfl

theorem readZeros_eq_some_iff : readZeros s = some t ↔
    ∃ n, 0 < n ∧ s = List.replicate n '0' ∧ t = .minInteger n := by
  unfold readZeros
  constructor
  · intro h
    split at h
    · rename_i hzeros
      obtain ⟨hne, hall⟩ := Bool.and_eq_true_iff.mp hzeros
      refine ⟨s.length, List.length_pos_iff.mpr (by simpa using hne), ?_, (Option.some.inj h).symm⟩
      exact List.eq_replicate_iff.mpr ⟨rfl, by simpa using hall⟩
    · cases h
  · rintro ⟨n, hpos, rfl, rfl⟩
    simp [Nat.ne_of_gt hpos]

theorem readScientific_eq_some_iff : readScientific s = some t ↔
    ∃ sign digits, sign ∈ ["", "+!", "+?"] ∧ 0 < digits ∧
      (s = 'E' :: (String.toList sign ++ List.replicate digits '0') ∧ t = .form .scientific ∨
        s = 'E' :: 'E' :: (String.toList sign ++ List.replicate digits '0') ∧
          t = .form .engineering) := by
  constructor
  · intro h
    unfold readScientific at h
    split at h
    · split at h
      rename_i kind rest hkind
      dsimp only at h
      obtain ⟨_, hzeros, rfl⟩ := Option.map_eq_some_iff.mp h
      obtain ⟨n, hpos, hdigits, -⟩ := readZeros_eq_some_iff.mp hzeros
      obtain ⟨sign, hsign, hrest⟩ : ∃ sign ∈ ["", "+!", "+?"],
          rest = String.toList sign ++ List.replicate n '0' := by
        split at hdigits
        · exact ⟨"+!", by decide, by rw [hdigits]; rfl⟩
        · exact ⟨"+?", by decide, by rw [hdigits]; rfl⟩
        · exact ⟨"", by decide, hdigits⟩
      split at hkind
      · cases hkind
        exact ⟨sign, n, hsign, hpos, .inr ⟨by rw [hrest], rfl⟩⟩
      · cases hkind
        exact ⟨sign, n, hsign, hpos, .inl ⟨by rw [hrest], rfl⟩⟩
    · cases h
  · rintro ⟨sign, digits, hsign, hpos, h⟩
    obtain ⟨n, rfl⟩ := Nat.exists_eq_succ_of_ne_zero (Nat.ne_of_gt hpos)
    have hzeros : readZeros (List.replicate (n + 1) '0') = some (.minInteger (n + 1)) :=
      readZeros_eq_some_iff.mpr ⟨_, hpos, rfl, rfl⟩
    simp only [List.mem_cons, List.not_mem_nil, or_false] at hsign
    rw [List.replicate_succ] at hzeros
    rcases h with ⟨rfl, rfl⟩ | ⟨rfl, rfl⟩ <;> rcases hsign with rfl | rfl | rfl <;>
      simp [readScientific, List.replicate_succ, hzeros]

theorem readIntegerWidth_eq_some_iff (hs : s ≠ []) : readIntegerWidth s = some t ↔
    ∃ hashes zeros,
      0 < hashes + zeros ∧ s = List.replicate hashes '#' ++ List.replicate zeros '0' ∧
          t = .integerWidth zeros (some (hashes + zeros)) ∨
        ∃ mark ∈ ['*', '+'], s = mark :: (List.replicate hashes '#' ++ List.replicate zeros '0') ∧
          t = .integerWidth zeros none := by
  constructor
  · intro h
    unfold readIntegerWidth at h
    split at h
    rename_i isOpen r hopen
    rcases hhashes : countOf '#' r with ⟨hashes, r'⟩
    rcases hzeros : countOf '0' r' with ⟨zeros, tail⟩
    simp only [hhashes, hzeros] at h
    cases tail with
    | cons c tail => cases h
    | nil =>
      have hr : r = List.replicate hashes '#' ++ List.replicate zeros '0' := by
        rw [eq_of_countOf hhashes, eq_of_countOf hzeros, List.append_nil]
      refine ⟨hashes, zeros, ?_⟩
      split at hopen <;> cases hopen
      · cases h
        exact .inr ⟨'*', by decide, by rw [hr], rfl⟩
      · cases h
        exact .inr ⟨'+', by decide, by rw [hr], rfl⟩
      · rcases Nat.eq_zero_or_pos (hashes + zeros) with hzero | hpos
        · rw [Nat.add_eq_zero_iff] at hzero
          exact absurd hr (by simpa [hzero] using hs)
        · simp only [List.isEmpty_nil, Bool.not_true, Bool.false_eq_true, if_false, Bool.false_or,
            decide_eq_true_iff, if_neg (Nat.ne_of_gt hpos)] at h
          exact .inl ⟨hpos, hr, (Option.some.inj h).symm⟩
  · have hcounts (hashes zeros : Nat) :
        countOf '#' (List.replicate hashes '#' ++ List.replicate zeros '0') =
          (hashes, List.replicate zeros '0') := by
      refine countOf_append ?_ hashes
      cases zeros with
      | zero => exact nofun
      | succ zeros => exact fun h => absurd (Option.some.inj h) (by decide)
    rintro ⟨hashes, zeros, ⟨hpos, rfl, rfl⟩ | ⟨mark, hmark, rfl, rfl⟩⟩
    · have hplain : ∀ mark ∈ ['*', '+'], ∀ r,
          List.replicate hashes '#' ++ List.replicate zeros '0' ≠ mark :: r := by
        rintro mark hmark r heq
        have hmem : mark ∈ List.replicate hashes '#' ++ List.replicate zeros '0' :=
          heq ▸ List.mem_cons_self
        simp only [List.mem_append, List.mem_replicate] at hmem
        rcases hmem with ⟨-, rfl⟩ | ⟨-, rfl⟩ <;> exact absurd hmark (by decide)
      unfold readIntegerWidth
      split
      rename_i hopen
      split at hopen
      · rename_i heq
        exact absurd heq (hplain '*' (by decide) _)
      · rename_i heq
        exact absurd heq (hplain '+' (by decide) _)
      · cases hopen
        simp only [hcounts, countOf_replicate, List.isEmpty_nil, Bool.not_true, Bool.false_eq_true,
          if_false, Bool.false_or, decide_eq_true_iff, if_neg (Nat.ne_of_gt hpos)]
    · simp only [List.mem_cons, List.not_mem_nil, or_false] at hmark
      rcases hmark with rfl | rfl <;> simp [readIntegerWidth, hcounts, countOf_replicate]

theorem Limits.not_mem {c : Char} (hc : c ∉ [required, '#', '*', '+'])
    (h : Limits required s least most) : c ∉ s := by
  simp only [List.mem_cons, List.not_mem_nil, or_false, not_or] at hc
  obtain ⟨extra, tail, rfl, -, htail⟩ := h.exists_tail
  rcases htail with ⟨rfl, -⟩ | ⟨rfl | rfl, -⟩ <;> simp [hc]

theorem readFraction_of_head (h : s.head? ≠ some '.') : readFraction s = none := by
  unfold readFraction
  split
  · exact absurd rfl h
  · rfl

theorem readSignificant_of_head (h : s.head? ≠ some '@') : readSignificant s = none := by
  unfold readSignificant
  split
  · exact absurd rfl h
  · rfl

theorem readZeros_of_head (h : s.head? ≠ some '0') : readZeros s = none := by
  rw [Option.eq_none_iff_forall_ne_some]
  intro t ht
  obtain ⟨n, hpos, rfl, -⟩ := readZeros_eq_some_iff.mp ht
  obtain ⟨n, rfl⟩ := Nat.exists_eq_succ_of_ne_zero (Nat.ne_of_gt hpos)
  exact h rfl

end Readers

section Read

variable {s stem option : List Char} {t : Token}

theorem lookup_of_ne (h : ∀ e ∈ keywords, e.1.toList ≠ s) : keywords.lookup (String.ofList s) = none := by
  rw [List.lookup_eq_none_iff]
  intro e he
  rw [bne_iff_ne]
  intro heq
  refine h e he ?_
  rw [← heq, String.toList_ofList]

/-- No keyword has a slash or starts as digits do, and each is looked up as it stands. -/
theorem keywords_spelled : ∀ e ∈ keywords, '/' ∉ e.1.toList ∧
    e.1.toList.head? ∉ ['.', '@', '0', 'E'].map some ∧ keywords.lookup e.1 = some e.2 := by
  decide

theorem lookup_of_slash (h : '/' ∈ s) : keywords.lookup (String.ofList s) = none := by
  refine lookup_of_ne fun e he heq => ?_
  exact (keywords_spelled e he).1 (heq ▸ h)

theorem lookup_of_head {c : Char} (hc : c ∈ ['.', '@', '0', 'E']) (h : s.head? = some c) :
    keywords.lookup (String.ofList s) = none := by
  refine lookup_of_ne fun e he heq => (keywords_spelled e he).2.1 ?_
  rw [heq, h]
  exact List.mem_map_of_mem hc

theorem lookup_of_mem {word : String} (h : (word, t) ∈ keywords) : keywords.lookup word = some t :=
  (keywords_spelled _ h).2.2

theorem read?_option (hstem : '/' ∉ stem) (hoption : option ≠ []) :
    read? (stem ++ '/' :: option) = readOption stem option := by
  rw [read?, lookup_of_slash (by simp)]
  simp only [Text.cut_append hstem]
  cases option with
  | nil => exact absurd rfl hoption
  | cons c option => rfl

theorem read?_digits {c : Char} (hc : c ∈ ['.', '@', '0', 'E']) (h : s.head? = some c)
    (hslash : '/' ∉ s) :
    read? s = (readFraction s <|> readSignificant s <|> readZeros s <|> readScientific s) := by
  rw [read?, lookup_of_head hc h]
  simp only [Text.cut_of_not_mem hslash]

theorem spells_of_readOption (hoption : option ≠ []) (h : readOption stem option = some t) :
    Spells (stem ++ '/' :: option) t := by
  have hof {word : String} (hword : String.ofList stem = word) : stem = word.toList := by
    rw [← hword, String.toList_ofList]
  unfold readOption at h
  split at h
  · rename_i hstem
    cases h
    rw [hof hstem]
    exact .currency hoption
  · rename_i hstem
    cases h
    rw [hof hstem]
    exact .unit (by decide) hoption
  · rename_i hstem
    cases h
    rw [hof hstem]
    exact .unit (by decide) hoption
  · rename_i hstem
    obtain ⟨d, hd, rfl⟩ := Option.map_eq_some_iff.mp h
    rw [hof hstem]
    exact .scale hd
  · rename_i hstem
    rw [hof hstem]
    obtain ⟨hashes, zeros, ⟨hpos, rfl, rfl⟩ | ⟨mark, hmark, rfl, rfl⟩⟩ :=
      (readIntegerWidth_eq_some_iff hoption).mp h
    · exact .integerWidth hpos
    · exact .openWidth hmark hashes zeros
  · cases h

theorem spells_of_read? (h : read? s = some t) : Spells s t := by
  unfold read? at h
  split at h
  · rename_i hlookup
    cases h
    obtain ⟨before, after, hkeywords, -⟩ := List.lookup_eq_some_iff.mp hlookup
    have hmem : (String.ofList s, t) ∈ keywords :=
      hkeywords ▸ List.mem_append_right before List.mem_cons_self
    have hspells := Spells.keyword hmem
    rwa [String.toList_ofList] at hspells
  · split at h
    · rename_i stem c option hcut
      rw [Text.eq_of_cut hcut]
      exact spells_of_readOption (List.cons_ne_nil c option) h
    · simp only [Option.orElse_eq_orElse, Option.orElse_eq_or, Option.or_eq_some_iff] at h
      rcases h with h | ⟨-, h | ⟨-, h | ⟨-, h⟩⟩⟩
      · obtain ⟨r, least, most, rfl, hlimits, rfl⟩ := readFraction_eq_some_iff.mp h
        exact .fraction hlimits
      · obtain ⟨least, most, hlimits, hpos, rfl⟩ := readSignificant_eq_some_iff.mp h
        exact .significant hlimits hpos
      · obtain ⟨least, hpos, rfl, rfl⟩ := readZeros_eq_some_iff.mp h
        exact .minInteger hpos
      · obtain ⟨sign, digits, hsign, hpos, ⟨rfl, rfl⟩ | ⟨rfl, rfl⟩⟩ := readScientific_eq_some_iff.mp h
        · exact .scientific hsign hpos
        · exact .engineering hsign hpos

theorem read?_scientific (hread : readScientific s = some t) (hhead : s.head? = some 'E')
    (hslash : '/' ∉ s) : read? s = some t := by
  have hne {c : Char} (hc : 'E' ≠ c) : s.head? ≠ some c := by
    rw [hhead]
    exact fun h => hc (Option.some.inj h)
  rw [read?_digits (by decide) hhead hslash, readFraction_of_head (hne (by decide)),
    readSignificant_of_head (hne (by decide)), readZeros_of_head (hne (by decide)), hread]
  rfl

theorem not_mem_exponent {sign : String} (hsign : sign ∈ ["", "+!", "+?"]) (digits : Nat) :
    '/' ∉ sign.toList ++ List.replicate digits '0' := by
  simp only [List.mem_cons, List.not_mem_nil, or_false] at hsign
  rcases hsign with rfl | rfl | rfl <;> simp

/-- A word is read just as the token that it spells. -/
theorem read?_eq_some_iff : read? s = some t ↔ Spells s t := by
  refine ⟨spells_of_read?, fun h => ?_⟩
  cases h with
  | keyword h => rw [read?, String.ofList_toList, lookup_of_mem h]
  | currency hcode =>
    rw [read?_option (by decide) hcode]
    simp [readOption]
  | unit hstem hid =>
    simp only [List.mem_cons, List.not_mem_nil, or_false] at hstem
    rcases hstem with rfl | rfl <;> rw [read?_option (by decide) hid] <;> simp [readOption]
  | @scale factor d hd =>
    have hne : factor ≠ [] := by
      rintro rfl
      have hnone : Decimal.read? [] = none := by decide
      cases hnone.symm.trans hd
    rw [read?_option (by decide) hne]
    simp [readOption, hd]
  | @integerWidth hashes zeros hpos =>
    have hne : List.replicate hashes '#' ++ List.replicate zeros '0' ≠ [] := by
      simp only [ne_eq, List.append_eq_nil_iff, List.replicate_eq_nil_iff]
      omega
    rw [read?_option (by decide) hne]
    have hread := (readIntegerWidth_eq_some_iff hne).mpr ⟨hashes, zeros, .inl ⟨hpos, rfl, rfl⟩⟩
    simp [readOption, hread]
  | openWidth hmark hashes zeros =>
    rw [read?_option (by decide) (List.cons_ne_nil _ _)]
    have hread := (readIntegerWidth_eq_some_iff (List.cons_ne_nil _ _)).mpr
      ⟨hashes, zeros, .inr ⟨_, hmark, rfl, rfl⟩⟩
    simp [readOption, hread]
  | @fraction r least most h =>
    have hread := readFraction_eq_some_iff.mpr ⟨r, least, most, rfl, h, rfl⟩
    have hslash : '/' ∉ '.' :: r := List.not_mem_cons_of_ne_of_not_mem (by decide) (h.not_mem (by decide))
    rw [read?_digits (by decide) rfl hslash, hread]
    rfl
  | @significant _ least most h hpos =>
    have hread := readSignificant_eq_some_iff.mpr ⟨least, most, h, hpos, rfl⟩
    have hhead : s.head? = some '@' := by
      obtain ⟨n, rfl⟩ := Nat.exists_eq_succ_of_ne_zero (Nat.ne_of_gt hpos)
      obtain ⟨extra, tail, rfl, -⟩ := h.exists_tail
      rfl
    have hfraction : readFraction s = none := readFraction_of_head (by rw [hhead]; decide)
    rw [read?_digits (by decide) hhead (h.not_mem (by decide)), hfraction, hread]
    rfl
  | @minInteger least hpos =>
    obtain ⟨n, rfl⟩ := Nat.exists_eq_succ_of_ne_zero (Nat.ne_of_gt hpos)
    have hread := readZeros_eq_some_iff.mpr ⟨n + 1, hpos, rfl, rfl⟩
    have hhead : (List.replicate (n + 1) '0').head? = some '0' := rfl
    rw [read?_digits (by decide) hhead (by simp), readFraction_of_head (by rw [hhead]; decide),
      readSignificant_of_head (by rw [hhead]; decide), hread]
    rfl
  | @scientific sign hsign digits hpos =>
    refine read?_scientific ?_ rfl ?_
    · exact readScientific_eq_some_iff.mpr ⟨sign, digits, hsign, hpos, .inl ⟨rfl, rfl⟩⟩
    · exact List.not_mem_cons_of_ne_of_not_mem (by decide) (not_mem_exponent hsign digits)
  | @engineering sign hsign digits hpos =>
    refine read?_scientific ?_ rfl ?_
    · exact readScientific_eq_some_iff.mpr ⟨sign, digits, hsign, hpos, .inr ⟨rfl, rfl⟩⟩
    · refine List.not_mem_cons_of_ne_of_not_mem (by decide) ?_
      exact List.not_mem_cons_of_ne_of_not_mem (by decide) (not_mem_exponent hsign digits)

end Read

end MessageFormat.Number.Token
