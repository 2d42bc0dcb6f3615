import MessageFormat.Proofs.Number.Width

/-!
Percentages and permilles that are scaled too. Both products are exact where there are digits enough; but a
percentage that has a scale of its own is not taken times a hundred.
-/

set_option autoImplicit false

namespace MessageFormat

namespace Decimal

variable {a b : Decimal}

/-- A product is exact where a decimal has its size. -/
theorem exists_multiply (h : Representable (a.size * b.size)) :
    ∃ r, a.multiply b = .ok r ∧ r.size = a.size * b.size := by
  rw [← size_mul (a.negative != b.negative)] at h ⊢
  exact (finish_exact_iff defaultPrecision_pos).mpr h

end Decimal

namespace Number

open Decimal

variable {spec : Spec} {number : Decimal} {s : List Char} {token : Token}

theorem exists_scaled_exact (hproduct : Representable (number.size * spec.scale.size))
    (hfactor : Representable (number.size * spec.scale.size * spec.factor)) :
    ∃ r, scaled spec number = .ok r ∧ r.size = number.size * spec.scale.size * spec.factor := by
  obtain ⟨p, hp, hsize⟩ := exists_multiply hproduct
  have hmultiply {n : Nat} (h : Representable (number.size * spec.scale.size * n)) :
      ∃ r, p.multiply (Decimal.ofNat n) = .ok r ∧ r.size = number.size * spec.scale.size * n := by
    rw [← hsize, ← size_ofNat n] at h ⊢
    exact exists_multiply h
  unfold Spec.factor at hfactor ⊢
  unfold scaled
  simp only [hp, Bind.bind, Except.bind]
  cases hpercent : spec.percent && spec.scale.sameValue Decimal.one with
  | true =>
    simp only [hpercent, if_true] at hfactor ⊢
    exact hmultiply hfactor
  | false =>
    cases hpermille : spec.permille with
    | true =>
      simp only [hpercent, hpermille, Bool.false_eq_true, if_false, if_true] at hfactor ⊢
      exact hmultiply hfactor
    | false =>
      simp only [Bool.false_eq_true, if_false, Nat.cast_one, mul_one]
      exact ⟨p, rfl, hsize⟩

/-! The tokens of a share. -/

/-- The tokens of a skeleton. -/
def tokensOf (s : List Char) : List Token := (Spec.skeletonWords s).filterMap Token.read?

def Token.scale? : Token → Option Decimal
  | .scale factor => some factor
  | _ => none

/-- One kind of share is among these tokens, and no width of the integer part. -/
structure Shares (token : Token) (tokens : List Token) : Prop where
  share : token = .percent ∨ token = .permille
  mem : token ∈ tokens
  other : ∀ t ∈ tokens, t ∈ [.percent, .permille, .percentScaled] → t = token
  width : ∀ least most, .integerWidth least most ∉ tokens

/-- What a share multiplies by, besides a scale. -/
inductive ShareFactor (scale : Decimal) : Token → Nat → Prop where
  | percent (h : scale.value = 1) : ShareFactor scale .percent 100
  | scaled (h : scale.value ≠ 1) : ShareFactor scale .percent 1
  | permille : ShareFactor scale .permille 1000

namespace Spec

/-- A field that only tokens of shares write has what the one kind of share writes. -/
theorem written_of_shares (h : Shares token (tokensOf s)) (field : Field)
    (hfield : ∀ t : Token, t.written field ≠ none → t ∈ [.percent, .permille, .percentScaled])
    (htoken : token.written field ≠ none) : token.written field = some ((ofSkeleton s).get field) := by
  have hread {word : List Char} (hword : word ∈ skeletonWords s) (hwrites : writtenBy field word ≠ none) :
      Token.read? word = some token := by
    unfold writtenBy at hwrites
    cases ht : Token.read? word with
    | none =>
      rw [ht] at hwrites
      exact absurd rfl hwrites
    | some t =>
      rw [ht] at hwrites
      rw [h.other t (List.mem_filterMap.mpr ⟨word, hword, ht⟩) (hfield t hwrites)]
  rcases lastWrites_or_none (skeletonWords s) field with ⟨word, hlast⟩ | hnone
  · have hget := get_of_lastWrites hlast
    obtain ⟨before, after, hwords, hwrites, -⟩ := hlast
    have hmem : word ∈ skeletonWords s := by
      rw [hwords]
      exact List.mem_append_right _ List.mem_cons_self
    rwa [writtenBy, hread hmem hwrites, Option.bind_some] at hget
  · obtain ⟨word, hmem, hword⟩ := List.mem_filterMap.mp h.mem
    have hsilent := hnone word hmem
    rw [writtenBy, hword, Option.bind_some] at hsilent
    exact absurd hsilent htoken

theorem percent_of_shares (h : Shares token (tokensOf s)) :
    (ofSkeleton s).percent = decide (token = .percent) ∧
      (ofSkeleton s).permille = decide (token = .permille) := by
  have hpercent := written_of_shares h .percent
    (fun t ht => by cases t <;> first | exact absurd rfl ht | decide)
  have hpermille := written_of_shares h .permille
    (fun t ht => by cases t <;> first | exact absurd rfl ht | decide)
  rcases h.share with rfl | rfl
  · exact ⟨(Option.some.inj (hpercent (Option.some_ne_none _))).symm,
      (Option.some.inj (hpermille (Option.some_ne_none _))).symm⟩
  · exact ⟨(Option.some.inj (hpercent (Option.some_ne_none _))).symm,
      (Option.some.inj (hpermille (Option.some_ne_none _))).symm⟩

/-- The scale is the last one, or one. -/
theorem scale_of_shares (h : Shares token (tokensOf s)) :
    (ofSkeleton s).scale = (((tokensOf s).filterMap Token.scale?).getLast?).getD Decimal.one := by
  have hscales : (skeletonWords s).filterMap (writtenBy .scale) = (tokensOf s).filterMap Token.scale? := by
    rw [tokensOf, List.filterMap_filterMap]
    refine List.filterMap_congr fun word hword => ?_
    unfold writtenBy
    cases ht : Token.read? word with
    | none => rfl
    | some t =>
      cases t with
      | percentScaled =>
        have hshare := h.other _ (List.mem_filterMap.mpr ⟨word, hword, ht⟩) (by decide)
        rcases h.share with rfl | rfl <;> cases hshare
      | _ => rfl
  exact hscales ▸ get_ofSkeleton s .scale

theorem maxInteger_of_shares (h : Shares token (tokensOf s)) : (ofSkeleton s).maxInteger = none := by
  have hsilent : ∀ word ∈ skeletonWords s, writtenBy .maxInteger word = none := fun word hword => by
    unfold writtenBy
    cases ht : Token.read? word with
    | none => rfl
    | some t =>
      cases t with
      | integerWidth least most => exact absurd (List.mem_filterMap.mpr ⟨word, hword, ht⟩) (h.width least most)
      | _ => rfl
  exact get_of_none hsilent

theorem factor_of_shares (h : Shares token (tokensOf s)) {k : Nat}
    (hk : ShareFactor (ofSkeleton s).scale token k) : (ofSkeleton s).factor = k := by
  obtain ⟨hpercent, hpermille⟩ := percent_of_shares h
  cases hk with
  | percent hscale =>
    have hsame : (ofSkeleton s).scale.sameValue Decimal.one = true := sameValue_iff.mpr (hscale.trans value_one.symm)
    simp [factor, hpercent, hsame]
  | scaled hscale =>
    have hother : (ofSkeleton s).scale.sameValue Decimal.one = false := by
      rw [← Bool.not_eq_true, sameValue_iff, value_one]
      exact hscale
    simp [factor, hother, hpermille]
  | permille => simp [factor, hpercent, hpermille]

theorem isLiteralFallback_of_shares (h : Shares token (tokensOf s)) :
    (ofSkeleton s).isLiteralFallback = false := by
  obtain ⟨hpercent, hpermille⟩ := percent_of_shares h
  rcases h.share with rfl | rfl
  · exact isLiteralFallback_eq_false .percent (by decide)
      (hpercent.trans_ne (by decide : true ≠ false))
  · exact isLiteralFallback_eq_false .permille (by decide)
      (hpermille.trans_ne (by decide : true ≠ false))

end Spec
end Number

namespace Format

open Outcome
open Number (Spec)
open MessageFormat.Locale (Context)

/-- Under a skeleton with one kind of share, any scales and no greatest width. Where both products have no more
digits than the precision, within the range of exponents, the number is scaled exactly: by the last scale, and by
a thousand for a permille; a percentage is taken times a hundred just if its scale is one. Nothing is cut off, and
in a notation without exponents it is this magnitude that is rounded and handed over, as it is where no digits
are limited. -/
theorem numberWith_share {s : List Char} {token : Number.Token} {scale number : Decimal} {k : Nat}
    {value : Value} (hshares : Number.Shares token (Number.tokensOf s))
    (hscale : (((Number.tokensOf s).filterMap Number.Token.scale?).getLast?).getD Decimal.one = scale)
    (hk : Number.ShareFactor scale token k) (hv : value.decimal? = some number)
    (hproduct : Decimal.Representable (|number.value| * |scale.value|))
    (hshare : Decimal.Representable (|number.value| * |scale.value| * k)) (context : Context) (g : Graph) :
    ∃ scaled, Number.scaled (Spec.ofSkeleton s) number = .ok scaled ∧
      scaled.magnitude.value = |number.value| * |scale.value| * k ∧
      Number.truncated (Spec.ofSkeleton s) scaled.magnitude = .ok scaled.magnitude ∧
      ∀ locale, (Spec.ofSkeleton s).form.isScientific = false →
        Number.localeOf context (Spec.ofSkeleton s) = some locale →
        ∃ l, Number.limited (Spec.ofSkeleton s) scaled.magnitude = .ok l ∧
          (∀ m, (numberWith context g (Spec.ofSkeleton s) value).Hands m ↔ m = l.magnitude) ∧
          ((Spec.ofSkeleton s).maxSignificant = none → (Spec.ofSkeleton s).maxFraction = none →
            l.magnitude = scaled.magnitude) := by
  have hspecScale := (Spec.scale_of_shares hshares).trans hscale
  have hfactor := Spec.factor_of_shares hshares (hspecScale.symm ▸ hk)
  have hwidth := Spec.maxInteger_of_shares hshares
  rw [Decimal.abs_value, Decimal.abs_value] at hproduct hshare ⊢
  rw [← hspecScale] at hproduct hshare ⊢
  rw [← hfactor] at hshare ⊢
  obtain ⟨scaled, hscaled, hsize⟩ := Number.exists_scaled_exact hproduct hshare
  have hcut : Number.truncated (Spec.ofSkeleton s) scaled.magnitude = .ok scaled.magnitude := by
    rw [Number.truncated, hwidth]
  refine ⟨scaled, hscaled, hsize, hcut, fun locale hform hlocale => ?_⟩
  obtain ⟨l, hl, -⟩ := Number.limited_spec (Spec.ofSkeleton s)
    (Number.fits_of_scaled hscaled).magnitude.2.1
  refine ⟨l, hl, fun m => ?_, fun hs hf => Number.limited_of_no_limits hform hs hf hl⟩
  rw [hands_numberWith_iff hform]
  constructor
  · rintro ⟨number', scaled', cut', l', hv', -, -, hscaled', hcut', hl', rfl⟩
    obtain rfl : number = number' := Option.some.inj (hv.symm.trans hv')
    obtain rfl : scaled = scaled' := Except.ok.inj (hscaled.symm.trans hscaled')
    obtain rfl : scaled.magnitude = cut' := Except.ok.inj (hcut.symm.trans hcut')
    obtain rfl : l = l' := Except.ok.inj (hl.symm.trans hl')
    rfl
  · rintro rfl
    exact ⟨number, scaled, scaled.magnitude, l, hv, Spec.isLiteralFallback_of_shares hshares,
      ⟨locale, hlocale⟩, hscaled, hcut, hl, rfl⟩

/-- The last scale of a permille counts, wherever the token of the share stands. -/
theorem numberWith_share_permille : ∃ (s : List Char) (scale number scaled : Decimal) (value : Value),
    s = "scale/3 permille .0# scale/-2.5".toList ∧ value = .decimal (.finite number) ∧
    number = ⟨true, 125, -3⟩ ∧ scale = ⟨true, 25, -1⟩ ∧ Number.Shares .permille (Number.tokensOf s) ∧
    value.decimal? = some number ∧ Number.scaled (Spec.ofSkeleton s) number = .ok scaled ∧
    scaled.magnitude.value = |number.value| * |scale.value| * 1000 := by
  let s := "scale/3 permille .0# scale/-2.5".toList
  let number : Decimal := ⟨true, 125, -3⟩
  let scale : Decimal := ⟨true, 25, -1⟩
  have htokens : Number.tokensOf s =
      [.scale ⟨false, 3, 0⟩, .permille, .fraction 1 2, .scale scale] := by decide +kernel
  have hshares : Number.Shares .permille (Number.tokensOf s) := by
    rw [htokens]
    exact ⟨.inr rfl, by decide, by decide, fun least most => by simp⟩
  have hproduct : |number.value| * |scale.value| = Decimal.size ⟨false, 3125, -4⟩ := by
    rw [Decimal.abs_value, Decimal.abs_value]
    norm_num [Decimal.size, number, scale]
  have hshare : |number.value| * |scale.value| * (1000 : ℕ) = Decimal.size ⟨false, 3125, -1⟩ := by
    rw [hproduct]
    norm_num [Decimal.size]
  have hv : (Value.decimal (.finite number)).decimal? = some number := by decide +kernel
  have hfits : (⟨false, 3125, -4⟩ : Decimal).Fits ∧ (⟨false, 3125, -1⟩ : Decimal).Fits := by decide
  have hscale : (((Number.tokensOf s).filterMap Number.Token.scale?).getLast?).getD Decimal.one = scale := by
    rw [htokens]
    rfl
  obtain ⟨scaled, hscaled, hmagnitude, -⟩ := numberWith_share hshares hscale .permille hv
    (hproduct ▸ hfits.1.representable) (hshare ▸ hfits.2.representable) englishContext {}
  exact ⟨s, scale, number, scaled, _, rfl, rfl, rfl, rfl, hshares, hv, hscaled, by exact_mod_cast hmagnitude⟩

/-- A percentage of twice the value is not taken times a hundred, and a permille of it is times a thousand. -/
theorem numberWith_percent_scaled : ∃ (percent permille : List Char) (value : Value) (number : Decimal),
    percent = "percent scale/2".toList ∧ permille = "permille scale/2".toList ∧
    value = .decimal (.finite number) ∧ number = ⟨false, 5, -1⟩ ∧
    Number.Shares .percent (Number.tokensOf percent) ∧
    ((Number.tokensOf percent).filterMap Number.Token.scale?).getLast? = some (Decimal.ofNat 2) ∧
    Number.scaled (Spec.ofSkeleton percent) number = .ok ⟨false, 10, -1⟩ ∧
    (Decimal.value ⟨false, 10, -1⟩) ≠ number.value * (Decimal.ofNat 2).value * 100 ∧
    (numberWith englishContext {} (Spec.ofSkeleton percent) value).result =
      .ok "1.0[percent;1;~;~;g;~;symbol;~]@en" ∧
    (numberWith englishContext {} (Spec.ofSkeleton permille) value).result =
      .ok "1000.0[permille;1;~;~;g;~;symbol;~]@en" := by
  have htokens : Number.tokensOf "percent scale/2".toList = [.percent, .scale (Decimal.ofNat 2)] := by
    decide +kernel
  refine ⟨_, _, _, _, rfl, rfl, rfl, rfl, ?_, ?_, by decide +kernel, ?_, by decide +kernel, by decide +kernel⟩
  · rw [htokens]
    exact ⟨.inl rfl, by decide, by decide, fun least most => by simp⟩
  · rw [htokens]
    rfl
  · norm_num [Decimal.value, Decimal.size, Decimal.ofNat]

end Format
end MessageFormat
