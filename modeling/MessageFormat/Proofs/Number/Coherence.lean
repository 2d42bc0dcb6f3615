import MessageFormat.Proofs.Number.Skeleton

/-!
Which fields of a spec go together. A skeleton sets both limits of a fraction and both limits of significant
digits, or none; shares of a hundred and of a thousand exclude each other; and a scale is a finite number.
Limits of one kind are in order, but for an open end after too many required digits, and for zeros that widen
the integer part past its limit.
-/

set_option autoImplicit false

namespace MessageFormat.Number

namespace Token

/-- The end of the digits is left open. -/
def IsOpen (word : List Char) : Prop := ∃ mark ∈ ['*', '+'], word.getLast? = some mark

section Limits

variable {required c : Char} {s : List Char} {least most : Nat}

/-- Limits are out of order just if an open end comes after more digits than it reaches. -/
theorem Limits.lt_iff (hrequired : required ∉ ['*', '+']) (h : Limits required s least most) :
    most < least ↔ maxDigits < least ∧ IsOpen s := by
  cases h with
  | closed least extra =>
    refine iff_of_false (by omega) ?_
    rintro ⟨-, mark, hmark, hlast⟩
    have hmem := List.mem_of_getLast? hlast
    simp only [List.mem_append, List.mem_replicate] at hmem
    rcases hmem with ⟨-, rfl⟩ | ⟨-, rfl⟩
    · exact hrequired hmark
    · exact absurd hmark (by decide)
  | @opened _ extra mark hmark =>
    have hopen : IsOpen (List.replicate least required ++ List.replicate extra '#' ++ [mark]) :=
      ⟨mark, hmark, List.getLast?_concat⟩
    rw [and_iff_left hopen]

theorem isOpen_cons_iff (hc : c ∉ ['*', '+']) : IsOpen (c :: s) ↔ IsOpen s := by
  cases s with
  | nil =>
    refine iff_of_false ?_ ?_
    · rintro ⟨mark, hmark, hlast⟩
      obtain rfl : c = mark := Option.some.inj hlast
      exact hc hmark
    · rintro ⟨mark, -, hlast⟩
      cases hlast
  | cons d s => rw [IsOpen, IsOpen, List.getLast?_cons_cons]

/-- No keyword writes a lower limit other than zero, and none one of integer digits. -/
theorem keywords_least : ∀ e ∈ keywords, (e.2.write {}).minFraction.getD 0 = 0 ∧
    (e.2.write {}).minSignificant.getD 0 = 0 ∧ (e.2.written .minInteger).isNone = true := by
  decide

theorem fraction_lt_iff (h : Spells s (.fraction least most)) :
    most < least ↔ maxDigits < least ∧ IsOpen s := by
  cases h with
  | keyword h =>
    obtain rfl : least = 0 := (keywords_least _ h).1
    exact iff_of_false (Nat.not_lt_zero _) fun h => Nat.not_lt_zero _ h.1
  | fraction h => rw [h.lt_iff (by decide), isOpen_cons_iff (by decide)]

theorem significant_lt_iff (h : Spells s (.significant least most)) :
    most < least ↔ maxDigits < least ∧ IsOpen s := by
  cases h with
  | keyword h =>
    obtain rfl : least = 0 := (keywords_least _ h).2.1
    exact iff_of_false (Nat.not_lt_zero _) fun h => Nat.not_lt_zero _ h.1
  | significant h => exact h.lt_iff (by decide)

theorem not_mem_keywords {word : String} {t : Token} (h : (word, t) ∈ keywords) :
    t.written .minInteger = none :=
  Option.isNone_iff_eq_none.mp (keywords_least _ h).2.2

theorem le_of_integerWidth (h : Spells s (.integerWidth least (some most))) : least ≤ most := by
  cases h with
  | keyword h => cases not_mem_keywords h
  | integerWidth h => omega

theorem eq_of_minInteger (h : Spells s (.minInteger least)) : s = List.replicate least '0' := by
  cases h with
  | keyword h => cases not_mem_keywords h
  | minInteger h => rfl

/-- A scale is a token just if it names a finite decimal. -/
theorem read?_scale (factor : List Char) :
    Token.read? ("scale".toList ++ '/' :: factor) = (Decimal.read? factor).map .scale := by
  cases factor with
  | nil => decide
  | cons c factor =>
    rw [read?_option (by decide) (List.cons_ne_nil c factor)]
    simp [readOption]

end Limits

/-! Limits that are written in pairs. -/

variable {token : Token}

theorem written_maxFraction (h : token.written .minFraction = none) :
    token.written .maxFraction = none := by
  cases token with
  | fraction least most => cases h
  | _ => rfl

theorem written_maxSignificant (h : token.written .minSignificant = none) :
    token.written .maxSignificant = none := by
  cases token with
  | significant least most => cases h
  | _ => rfl

theorem written_maxInteger (h : token.written .minInteger = none) :
    token.written .maxInteger = none := by
  cases token with
  | integerWidth least most => cases h
  | _ => rfl

end Token

namespace Spec

/-! The last word that writes a field. -/

/-- A word that writes a field, with no word after it that does. -/
def LastWrites (words : List (List Char)) (field : Field) (word : List Char) : Prop :=
  ∃ before after, words = before ++ word :: after ∧ writtenBy field word ≠ none ∧
    ∀ later ∈ after, writtenBy field later = none

theorem lastWrites_or_none (words : List (List Char)) (field : Field) :
    (∃ word, LastWrites words field word) ∨ ∀ word ∈ words, writtenBy field word = none := by
  induction words with
  | nil => exact .inr nofun
  | cons word words ih =>
    rcases ih with ⟨last, before, after, rfl, hlast⟩ | hnone
    · exact .inl ⟨last, word :: before, after, rfl, hlast⟩
    · by_cases hword : writtenBy field word = none
      · exact .inr (List.forall_mem_cons.mpr ⟨hword, hnone⟩)
      · exact .inl ⟨word, [], words, rfl, hword, hnone⟩

section LastWrites

variable {s : List Char} {words : List (List Char)} {word : List Char} {field field' : Field}

theorem LastWrites.getLast?_eq (h : LastWrites words field word) :
    (words.filterMap (writtenBy field)).getLast? = writtenBy field word := by
  obtain ⟨before, after, rfl, hword, hafter⟩ := h
  obtain ⟨content, hcontent⟩ := Option.ne_none_iff_exists'.mp hword
  have hnil : after.filterMap (writtenBy field) = [] := List.filterMap_eq_nil_iff.mpr hafter
  rw [List.filterMap_append, List.filterMap_cons_some hcontent, hnil, List.getLast?_concat, hcontent]

/-- A field has what the last word wrote that writes it. -/
theorem get_of_lastWrites (h : LastWrites (skeletonWords s) field word) :
    writtenBy field word = some ((ofSkeleton s).get field) := by
  obtain ⟨content, hcontent⟩ : ∃ content, writtenBy field word = some content := by
    obtain ⟨_, _, -, hword, -⟩ := h
    exact Option.ne_none_iff_exists'.mp hword
  rw [get_ofSkeleton, h.getLast?_eq, hcontent, Option.getD_some]

/-- A field that no word writes has its default. -/
theorem get_of_none (h : ∀ word ∈ skeletonWords s, writtenBy field word = none) :
    (ofSkeleton s).get field = ({} : Spec).get field := by
  rw [get_ofSkeleton, List.filterMap_eq_nil_iff.mpr h]
  rfl

theorem writtenBy_eq_none (h : ∀ {token : Token}, token.written field = none → token.written field' = none)
    (hword : writtenBy field word = none) : writtenBy field' word = none := by
  unfold writtenBy at hword ⊢
  cases hread : Token.read? word with
  | none => rfl
  | some token =>
    rw [hread] at hword
    exact h hword

/-- The last word that writes a field is a token. It settles this field, and others that no token writes
without this one. -/
theorem token_of_lastWrites (h : LastWrites (skeletonWords s) field word) : ∃ token,
    Token.Spells word token ∧ token.written field ≠ none ∧ ∀ field' content,
      (∀ {token : Token}, token.written field = none → token.written field' = none) →
      token.written field' = some content → (ofSkeleton s).get field' = content := by
  obtain ⟨token, hread, hwritten⟩ := Option.bind_eq_some_iff.mp (get_of_lastWrites h)
  refine ⟨token, Token.read?_eq_some_iff.mp hread, by rw [hwritten]; exact Option.some_ne_none _,
    fun field' content hfield' hcontent => ?_⟩
  have hword : writtenBy field' word = some content := by
    rw [writtenBy, hread]
    exact hcontent
  obtain ⟨before, after, hwords, -, hafter⟩ := h
  have hlast : LastWrites (skeletonWords s) field' word :=
    ⟨before, after, hwords, hword ▸ Option.some_ne_none content,
      fun later hlater => writtenBy_eq_none hfield' (hafter later hlater)⟩
  exact Option.some.inj ((get_of_lastWrites hlast).symm.trans hword)

end LastWrites

/-- A skeleton was understood if it set some field. -/
theorem isLiteralFallback_eq_false {s : Spec} (field : Field) (hfield : field ≠ .scale)
    (h : s.get field ≠ ({} : Spec).get field) : s.isLiteralFallback = false := by
  have hkept : ({ s with scale := Decimal.one, unrecognized := [] } : Spec).get field = s.get field := by
    cases field with
    | scale => exact absurd rfl hfield
    | _ => rfl
  have hplain : ({ s with scale := Decimal.one, unrecognized := [] } == ({} : Spec)) = false :=
    beq_eq_false_iff_ne.mpr fun heq => h (hkept.symm.trans (congrArg (Spec.get · field) heq))
  rw [isLiteralFallback, isPlain, hplain, Bool.and_false, Bool.and_false]

/-! Fields that go together. -/

/-- Limits come in pairs, a share is of one kind, the source of the precision is the skeleton just where there
are limits, and the scale is a finite decimal that some text names. -/
structure Coherent (s : Spec) : Prop where
  fraction : s.minFraction.isSome = s.maxFraction.isSome
  significant : s.minSignificant.isSome = s.maxSignificant.isSome
  share : ¬ (s.percent = true ∧ s.permille = true)
  precision : s.precision = .skeleton ↔ s.minFraction.isSome = true ∨ s.maxFraction.isSome = true ∨
    s.minSignificant.isSome = true ∨ s.maxSignificant.isSome = true
  scale : ∃ factor, Numeral.read? factor = some (.finite s.scale)

theorem coherent_default : ({} : Spec).Coherent :=
  ⟨rfl, rfl, by decide, by decide, "1".toList, by decide⟩

theorem numeral_of_read? {factor : List Char} {d : Decimal} (h : Decimal.read? factor = some d) :
    Numeral.read? factor = some (.finite d) := by
  unfold Decimal.read? at h
  split at h
  · rename_i hread
    rw [hread, Option.some.inj h]
  · cases h

/-- One token keeps fields together. -/
theorem Coherent.write {s : Spec} (h : s.Coherent) {word : List Char} {token : Token}
    (hspells : Token.Spells word token) : (token.write s).Coherent := by
  obtain ⟨hfraction, hsignificant, hshare, hprecision, hscale⟩ := h
  cases token with
  | fraction least most => exact ⟨rfl, hsignificant, hshare, iff_of_true rfl (.inl rfl), hscale⟩
  | significant least most =>
    exact ⟨hfraction, rfl, hshare, iff_of_true rfl (.inr (.inr (.inl rfl))), hscale⟩
  | percent => exact ⟨hfraction, hsignificant, fun h => Bool.false_ne_true h.2, hprecision, hscale⟩
  | percentScaled =>
    have hundred : Numeral.read? "100".toList = some (.finite (Decimal.ofNat 100)) := by decide
    exact ⟨hfraction, hsignificant, fun h => Bool.false_ne_true h.2, hprecision, _, hundred⟩
  | permille => exact ⟨hfraction, hsignificant, fun h => Bool.false_ne_true h.1, hprecision, hscale⟩
  | scale d =>
    refine ⟨hfraction, hsignificant, hshare, hprecision, ?_⟩
    cases hspells with
    | keyword h =>
      have hall : ∀ e ∈ keywords, (e.2.written .scale).isNone = true ∨ e.2 = .percentScaled := by
        decide
      rcases hall _ h with hnone | hscaled
      · cases hnone
      · cases hscaled
    | scale hd => exact ⟨_, numeral_of_read? hd⟩
  | sign | grouping | form | width | currencyDisplay | ordinal | minInteger | integerWidth | currency
  | unit | neutral => exact ⟨hfraction, hsignificant, hshare, hprecision, hscale⟩

theorem Coherent.readWord {s : Spec} (h : s.Coherent) (word : List Char) : (s.readWord word).Coherent := by
  unfold Spec.readWord
  cases hread : Token.read? word with
  | none => exact ⟨h.fraction, h.significant, h.share, h.precision, h.scale⟩
  | some token => exact h.write (Token.read?_eq_some_iff.mp hread)

theorem coherent_ofSkeleton (s : List Char) : (ofSkeleton s).Coherent :=
  List.foldlRecOn _ readWord coherent_default fun _ h word _ => h.readWord word

section Order

variable {s word : List Char}

theorem fraction_of_lastWrites (h : LastWrites (skeletonWords s) .minFraction word) : ∃ least most,
    Token.Spells word (.fraction least most) ∧ (ofSkeleton s).minFraction = some least ∧
      (ofSkeleton s).maxFraction = some most := by
  obtain ⟨token, hspells, hwrites, hget⟩ := token_of_lastWrites h
  cases token with
  | fraction least most =>
    exact ⟨least, most, hspells, hget .minFraction _ id rfl, hget .maxFraction _ Token.written_maxFraction rfl⟩
  | _ => exact absurd rfl hwrites

theorem significant_of_lastWrites (h : LastWrites (skeletonWords s) .minSignificant word) : ∃ least most,
    Token.Spells word (.significant least most) ∧ (ofSkeleton s).minSignificant = some least ∧
      (ofSkeleton s).maxSignificant = some most := by
  obtain ⟨token, hspells, hwrites, hget⟩ := token_of_lastWrites h
  cases token with
  | significant least most =>
    exact ⟨least, most, hspells, hget .minSignificant _ id rfl,
      hget .maxSignificant _ Token.written_maxSignificant rfl⟩
  | _ => exact absurd rfl hwrites

/-- The word that settles the least integer digits is a run of zeros, or settles the most ones too. -/
theorem minInteger_of_lastWrites (h : LastWrites (skeletonWords s) .minInteger word) :
    word = List.replicate (ofSkeleton s).minInteger '0' ∨
      ∃ most, Token.Spells word (.integerWidth (ofSkeleton s).minInteger most) ∧
        (ofSkeleton s).maxInteger = most := by
  obtain ⟨token, hspells, hwrites, hget⟩ := token_of_lastWrites h
  cases token with
  | minInteger least =>
    obtain rfl : (ofSkeleton s).minInteger = least := hget .minInteger _ id rfl
    exact .inl (Token.eq_of_minInteger hspells)
  | integerWidth least most =>
    obtain rfl : (ofSkeleton s).minInteger = least := hget .minInteger _ id rfl
    exact .inr ⟨most, hspells, hget .maxInteger _ Token.written_maxInteger rfl⟩
  | _ => exact absurd rfl hwrites

theorem exists_lastWrites (field : Field) (h : (ofSkeleton s).get field ≠ ({} : Spec).get field) :
    ∃ word, LastWrites (skeletonWords s) field word :=
  (lastWrites_or_none (skeletonWords s) field).resolve_right fun hnone => h (get_of_none hnone)

theorem and_exists_lastWrites_iff {field : Field} {limits digits : Prop} {shape : List Char → Prop}
    (hset : (ofSkeleton s).get field ≠ ({} : Spec).get field)
    (hlast : ∀ word, LastWrites (skeletonWords s) field word → (limits ↔ digits ∧ shape word)) :
    limits ↔ digits ∧ ∃ word, LastWrites (skeletonWords s) field word ∧ shape word := by
  constructor
  · intro h
    obtain ⟨word, hword⟩ := exists_lastWrites field hset
    obtain ⟨hdigits, hshape⟩ := (hlast word hword).mp h
    exact ⟨hdigits, word, hword, hshape⟩
  · rintro ⟨hdigits, word, hword, hshape⟩
    exact (hlast word hword).mpr ⟨hdigits, hshape⟩

variable {least most : Nat}

/-- Limits of a fraction are out of order just where an open end is left after too many digits. -/
theorem maxFraction_lt_iff (hleast : (ofSkeleton s).minFraction = some least)
    (hmost : (ofSkeleton s).maxFraction = some most) : most < least ↔ maxDigits < least ∧
      ∃ word, LastWrites (skeletonWords s) .minFraction word ∧ Token.IsOpen word := by
  refine and_exists_lastWrites_iff (hleast.trans_ne (Option.some_ne_none _)) fun word hword => ?_
  obtain ⟨least', most', hspells, hleast', hmost'⟩ := fraction_of_lastWrites hword
  obtain rfl : least' = least := Option.some.inj (hleast'.symm.trans hleast)
  obtain rfl : most' = most := Option.some.inj (hmost'.symm.trans hmost)
  exact Token.fraction_lt_iff hspells

/-- And so are limits of significant digits. -/
theorem maxSignificant_lt_iff (hleast : (ofSkeleton s).minSignificant = some least)
    (hmost : (ofSkeleton s).maxSignificant = some most) : most < least ↔ maxDigits < least ∧
      ∃ word, LastWrites (skeletonWords s) .minSignificant word ∧ Token.IsOpen word := by
  refine and_exists_lastWrites_iff (hleast.trans_ne (Option.some_ne_none _)) fun word hword => ?_
  obtain ⟨least', most', hspells, hleast', hmost'⟩ := significant_of_lastWrites hword
  obtain rfl : least' = least := Option.some.inj (hleast'.symm.trans hleast)
  obtain rfl : most' = most := Option.some.inj (hmost'.symm.trans hmost)
  exact Token.significant_lt_iff hspells

/-- Limits of the integer part are out of order just where a longer run of zeros is written after the limit. -/
theorem maxInteger_lt_iff (hmost : (ofSkeleton s).maxInteger = some most) :
    most < (ofSkeleton s).minInteger ↔
      ∃ zeros, most < zeros ∧ LastWrites (skeletonWords s) .minInteger (List.replicate zeros '0') := by
  constructor
  · intro h
    obtain ⟨word, hword⟩ : ∃ word, LastWrites (skeletonWords s) .minInteger word := by
      refine (lastWrites_or_none _ _).resolve_right fun hnone => ?_
      have hdefault : (ofSkeleton s).maxInteger = none :=
        get_of_none fun word hword => writtenBy_eq_none Token.written_maxInteger (hnone word hword)
      cases hdefault.symm.trans hmost
    rcases minInteger_of_lastWrites hword with rfl | ⟨most', hspells, hmost'⟩
    · exact ⟨_, h, hword⟩
    · obtain rfl : some most = most' := hmost.symm.trans hmost'
      exact absurd h (Nat.not_lt.mpr (Token.le_of_integerWidth hspells))
  · rintro ⟨zeros, hlt, hword⟩
    rcases minInteger_of_lastWrites hword with hzeros | ⟨most', hspells, -⟩
    · have hlength := congrArg List.length hzeros
      rw [List.length_replicate, List.length_replicate] at hlength
      rwa [← hlength]
    · -- a run of zeros is no other token
      have hread := Token.read?_eq_some_iff.mpr (Token.Spells.minInteger (Nat.zero_lt_of_lt hlt))
      cases hread.symm.trans (Token.read?_eq_some_iff.mpr hspells)

end Order

theorem isToken_scale_iff (factor : List Char) :
    Token.read? ("scale".toList ++ '/' :: factor) ≠ none ↔
      ∃ d, Numeral.read? factor = some (.finite d) := by
  rw [Token.read?_scale, ne_eq, Option.map_eq_none_iff, ← ne_eq, Option.ne_none_iff_exists']
  refine exists_congr fun d => ⟨numeral_of_read?, fun h => ?_⟩
  rw [Decimal.read?, h]

/-- What holds of the spec of every skeleton. Limits come in pairs, there is one kind of share, the source of
the precision is the skeleton just where there are limits of fractions or of significant digits, and the scale
is finite: other factors make no token. The least digits are no more than the most ones, but for two cases. In
the word that settles the limits of fractions, or those of significant digits, an open end is left after more
required digits than it reaches; or the word that settles the least integer digits is a run of zeros, which
leaves the most ones as they are, and has more zeros than these. -/
theorem ofSkeleton_limits (s : List Char) :
    (ofSkeleton s).Coherent ∧
    (∀ least most, (ofSkeleton s).minFraction = some least → (ofSkeleton s).maxFraction = some most →
      (most < least ↔ maxDigits < least ∧
        ∃ word, LastWrites (skeletonWords s) .minFraction word ∧ Token.IsOpen word)) ∧
    (∀ least most, (ofSkeleton s).minSignificant = some least →
      (ofSkeleton s).maxSignificant = some most → (most < least ↔ maxDigits < least ∧
        ∃ word, LastWrites (skeletonWords s) .minSignificant word ∧ Token.IsOpen word)) ∧
    (∀ most, (ofSkeleton s).maxInteger = some most → (most < (ofSkeleton s).minInteger ↔
      ∃ zeros, most < zeros ∧
        LastWrites (skeletonWords s) .minInteger (List.replicate zeros '0'))) ∧
    ∀ factor, Token.read? ("scale".toList ++ '/' :: factor) ≠ none ↔
      ∃ d, Numeral.read? factor = some (.finite d) :=
  ⟨coherent_ofSkeleton s, fun _ _ => maxFraction_lt_iff, fun _ _ => maxSignificant_lt_iff,
    fun _ => maxInteger_lt_iff, isToken_scale_iff⟩

/-- As many required digits as an open end reaches are in order; of the integer part the later of two tokens
for its least digits counts. -/
theorem ofSkeleton_limits_reached : ∃ s : List Char,
    s = "000 .000000000000000* integer-width/#0 @@@@@@@@@@@@@@@@+".toList ∧ (ofSkeleton s).Coherent ∧
    (ofSkeleton s).minFraction = some 15 ∧ (ofSkeleton s).maxFraction = some 15 ∧
    (∀ zeros, 2 < zeros →
      ¬ LastWrites (skeletonWords s) .minInteger (List.replicate zeros '0')) ∧
    (ofSkeleton s).maxSignificant = some 15 ∧
    ∃ word, LastWrites (skeletonWords s) .minSignificant word ∧ Token.IsOpen word := by
  let s := "000 .000000000000000* integer-width/#0 @@@@@@@@@@@@@@@@+".toList
  obtain ⟨hcoherent, -, hsignificant, hinteger, -⟩ := ofSkeleton_limits s
  have hmost : (ofSkeleton s).maxSignificant = some 15 := by decide +kernel
  obtain ⟨-, hword⟩ := (hsignificant 16 15 (by decide +kernel) hmost).mp (by decide)
  have hwidth : ¬ 2 < (ofSkeleton s).minInteger := by decide +kernel
  rw [hinteger 2 (by decide +kernel)] at hwidth
  exact ⟨s, rfl, hcoherent, by decide +kernel, by decide +kernel,
    fun zeros hzeros hlast => hwidth ⟨zeros, hzeros, hlast⟩, hmost, hword⟩

/-- Sixteen required digits are more than an open end reaches, and three zeros widen an integer part that is
limited to two digits. -/
theorem ofSkeleton_out_of_order :
    (∃ s : List Char, s = ".0000000000000000*".toList ∧
      (ofSkeleton s).minFraction = some 16 ∧ (ofSkeleton s).maxFraction = some 15) ∧
    ∃ s : List Char, s = "integer-width/#0 000".toList ∧
      (ofSkeleton s).minInteger = 3 ∧ (ofSkeleton s).maxInteger = some 2 :=
  ⟨⟨_, rfl, by decide +kernel, by decide +kernel⟩, _, rfl, by decide +kernel, by decide +kernel⟩

end Spec
end MessageFormat.Number
