import MessageFormat.Proofs.Decimal.Reach
import MessageFormat.Proofs.Format.Duration
import MessageFormat.Proofs.Format.DurationParts
import MessageFormat.Proofs.Format.Join

/-!
Which durations are too long to be shown. Hours have to be taken out of the seconds, and hours of more digits than the
precision are not found; on a timer they are written with all their digits, of which there are not to be too many.
-/

set_option autoImplicit false

namespace MessageFormat

/-- Each pattern for lists has places for two items and no other fields. -/
def Locale.Backend.JoinsPairs (b : Locale.Backend) : Prop :=
  ∀ type width locale patterns, b.answer (.listPatterns type width) locale = .ok (some patterns) → patterns.TwoPlaces

theorem Outcome.failsBy_mapM {α β : Type} {P : Error → Prop} {f : α → Outcome β} {l : List α}
    (h : ∀ a ∈ l, (f a).FailsBy P) : (l.mapM f).FailsBy P := by
  induction l with
  | nil => exact failsBy_pure []
  | cons a l ih =>
    obtain ⟨ha, hl⟩ := List.forall_mem_cons.mp h
    rw [List.mapM_cons]
    exact ha.bind fun b => (ih hl).bind fun bs => failsBy_pure _

namespace Decimal

variable {d r : Decimal}

theorem absolute_eq_error_iff {s : Signal} :
    d.absolute = .error s ↔ s = .overflow ∧ overflowBound defaultPrecision ≤ |d.value| := by
  rw [abs_value]
  exact finish_eq_error_iff defaultPrecision_pos

theorem pow_lt_overflowBound {n : ℕ} (h : (n : ℤ) ≤ maxExponent) : (10 : ℚ) ^ n < overflowBound defaultPrecision := by
  rw [← zpow_natCast]
  exact (zpow_le_zpow_right₀ (by norm_num) h).trans_lt (lt_overflowBound defaultPrecision_pos)

/-- The seconds of as many hours as a power of ten, less half a unit of the last digit that is kept of them. -/
def hoursBound (digits : ℕ) : ℚ := 3600 * 10 ^ digits - 10 ^ (digits + 4 - defaultPrecision) / 2

theorem hoursBound_eq {digits : ℕ} (h : defaultPrecision ≤ digits) :
    hoursBound digits = ((36 * 10 ^ 26 : ℕ) - 1 / 2) * 10 ^ ((digits + 4 - defaultPrecision : ℕ) : ℤ) ∧
      3600 * 10 ^ digits = (36 * 10 ^ 26 : ℕ) * (10 : ℚ) ^ ((digits + 4 - defaultPrecision : ℕ) : ℤ) := by
  obtain ⟨k, rfl⟩ := Nat.exists_eq_add_of_le h
  have hplaces : defaultPrecision + k + 4 - defaultPrecision = k + 4 := by omega
  have hprecision : (10 : ℚ) ^ (defaultPrecision + k) = 10 ^ 28 * 10 ^ k := pow_add _ _ _
  rw [hoursBound, hplaces, hprecision, zpow_natCast]
  push_cast
  constructor <;> ring

theorem hours_le_absolute_iff {digits : ℕ} (h : defaultPrecision ≤ digits) (hr : d.absolute = .ok r) :
    3600 * 10 ^ digits ≤ r.size ↔ hoursBound digits ≤ |d.value| := by
  obtain ⟨hbound, hhours⟩ := hoursBound_eq h
  have hfinish : finish d.magnitude = .ok r := hr
  have hexponent : tinyExponent defaultPrecision ≤ ((digits + 4 - defaultPrecision : ℕ) : ℤ) :=
    (tinyExponent_neg _).le.trans (Int.natCast_nonneg _)
  have hmagnitude : |d.value| = d.magnitude.size := abs_value d
  have hprecision : 1 < defaultPrecision := by decide
  have heven : 36 * 10 ^ 26 % 2 = 0 := by decide
  have hlow : 10 ^ (defaultPrecision - 1) < 36 * 10 ^ 26 := by decide
  have hhigh : 36 * 10 ^ 26 ≤ 10 ^ defaultPrecision := by decide
  rw [hbound, hhours, hmagnitude]
  exact le_size_finish_iff hprecision hfinish hexponent heven hlow hhigh

theorem hoursBound_lt (digits : ℕ) (hmost : ((digits + 4 : ℕ) : ℤ) ≤ maxExponent) :
    hoursBound digits < overflowBound defaultPrecision := by
  have hhalf : (0 : ℚ) < 10 ^ (digits + 4 - defaultPrecision) := by positivity
  have hdigits : (0 : ℚ) < 10 ^ digits := by positivity
  calc hoursBound digits ≤ 10 ^ (digits + 4) := by
        rw [hoursBound, pow_add]
        linarith
    _ < _ := pow_lt_overflowBound hmost

end Decimal

namespace Format

open Decimal Outcome
open MessageFormat.Locale (Context)

variable {remaining seconds : Decimal} {unit : Nat}

/-- A quotient with more digits than the precision is not found. -/
theorem takeUnits_eq_error (hunit : 0 < unit) (h : 10 ^ defaultPrecision * unit ≤ remaining.size) :
    takeUnits remaining unit = .error .divisionImpossible := by
  have hz : (ofNat unit).isZero = false := by simpa [ofNat, isZero] using hunit.ne'
  rcases divideWhole_spec (a := remaining) hz with ⟨-, herror⟩ | ⟨hlt, -⟩
  · simp only [takeUnits, Decimal.quotient, herror, Bind.bind, Except.bind]
  · rw [size_ofNat] at hlt
    exact absurd h (not_le.mpr hlt)

/-- The product may have more digits than the precision, which are rounded away. -/
theorem exists_taken {amount : ℕ} (hsmall : unit ≤ 3600) (h : amount < 10 ^ defaultPrecision) :
    ∃ taken, (ofNat amount).multiply (ofNat unit) = .ok taken ∧ taken.value = taken.size ∧
      |(amount * unit : ℚ) - taken.size| ≤ 5000 ∧
      ∀ f : Decimal, f.Fits → (amount * unit : ℚ) ≤ f.size → taken.size ≤ f.size := by
  have hsize : (⟨false, amount * unit, 0⟩ : Decimal).size = amount * unit := by
    rw [size, zpow_zero, mul_one, Nat.cast_mul]
  have hbelow : (amount * unit : ℚ) < 10 ^ 32 := by
    have hamount : amount * unit < 10 ^ defaultPrecision * 10 ^ 4 :=
      Nat.mul_lt_mul_of_lt_of_le h (hsmall.trans (by decide)) (by decide)
    exact_mod_cast hamount
  obtain ⟨taken, htaken⟩ := exists_finish defaultPrecision_pos
    (hsize.trans_lt (hbelow.trans (pow_lt_overflowBound (n := 32) (by decide))))
  have herror := error_of_finish (e := 4) defaultPrecision_pos htaken (by decide) (hsize.trans_lt hbelow)
  refine ⟨taken, htaken, value_of_positive (negative_finish htaken), ?_, fun f hf hle =>
    size_finish_le defaultPrecision_pos htaken hf (hsize.trans_le hle)⟩
  rw [hsize] at herror
  norm_num at herror
  linarith

/-- Else the units are taken out, where the product may be rounded, and what remains is small. -/
theorem takeUnits_of_lt (hunit : 0 < unit) (hsmall : unit ≤ 3600) (hfits : remaining.Fits)
    (hnonneg : 0 ≤ remaining.value) (hlt : remaining.size < 10 ^ defaultPrecision * unit) :
    ∃ amount rest, takeUnits remaining unit = .ok (ofNat amount, rest) ∧ amount < 10 ^ defaultPrecision ∧
      0 ≤ rest.value ∧ rest.size ≤ 10 ^ 4 ∧ rest.Fits := by
  have hz : (ofNat unit).isZero = false := by simpa [ofNat, isZero] using hunit.ne'
  obtain ⟨amount, r, hquotient, hamount, hdivides⟩ := exists_quotient hz (hlt.trans_eq (by rw [size_ofNat]))
  have hsum : remaining.size = amount * unit + r.size := by rw [hdivides.size_eq, size_ofNat]
  have hbound : r.size < 3600 := by
    have hunit' : (unit : ℚ) ≤ 3600 := by exact_mod_cast hsmall
    exact (hdivides.lt.trans_eq (size_ofNat unit)).trans_le hunit'
  have hrest := r.size_nonneg
  obtain ⟨taken, htaken, hvalue, herror, hmost⟩ := exists_taken hsmall hamount
  have hle : taken.size ≤ remaining.size := hmost remaining hfits (by linarith)
  have hdifference : (remaining.difference taken).value = remaining.size - taken.size := by
    rw [value_difference, value_eq_size hnonneg, hvalue]
  have hsmallSize : (remaining.difference taken).size ≤ 10 ^ 4 := by
    rw [← abs_value, hdifference, abs_of_nonneg (by linarith)]
    have hclose := (abs_le.mp herror).2
    linarith
  obtain ⟨rest, hfinish⟩ := exists_finish defaultPrecision_pos
    (hsmallSize.trans_lt (pow_lt_overflowBound (n := 4) (by decide)))
  have hsubtract : remaining.subtract taken = .ok rest := (subtract_eq _ _).trans hfinish
  have hten : (⟨false, 1, 4⟩ : Decimal).size = 10 ^ 4 := by
    rw [size, Nat.cast_one, one_mul]
    rfl
  have hpositive : rest.isNegative = false := by
    rw [← Bool.not_eq_true, isNegative_of_finish hfinish, hdifference]
    exact fun hneg => absurd hneg.1 (not_lt.mpr (by linarith))
  refine ⟨amount, rest, ?_, hamount, (value_of_not_isNegative hpositive).2,
    (size_finish_le defaultPrecision_pos hfinish (by decide) (hsmallSize.trans_eq hten.symm)).trans_eq hten,
    fits_of_finish defaultPrecision_pos hfinish⟩
  simp only [takeUnits, hquotient, Bind.bind, Except.bind, integerPart_whole, htaken, hsubtract]
  rfl

/-- There are parts just if the hours have no more digits than the precision, and then none of them is too large to be
written. -/
theorem durationParts_cases (seconds : Decimal) :
    (hoursBound defaultPrecision ≤ |seconds.value| ∧ ∃ s, durationParts seconds = .error s) ∨
    (|seconds.value| < hoursBound defaultPrecision ∧ ∃ parts, durationParts seconds = .ok parts ∧
      ∀ part ∈ parts, part.2.size < overflowBound defaultPrecision) := by
  have hmost := hoursBound_lt defaultPrecision (by decide)
  cases htotal : seconds.absolute with
  | error s =>
    have hbound := (absolute_eq_error_iff.mp htotal).2
    refine .inl ⟨hmost.le.trans hbound, s, ?_⟩
    simp only [durationParts, htotal, Bind.bind, Except.bind]
  | ok total =>
    have hhours := hours_le_absolute_iff le_rfl htotal
    rcases le_or_gt (3600 * 10 ^ defaultPrecision) total.size with hlong | hshort
    · refine .inl ⟨hhours.mp hlong, .divisionImpossible, ?_⟩
      have herror : takeUnits total 3600 = .error .divisionImpossible :=
        takeUnits_eq_error (by decide) (by rw [mul_comm]; exact_mod_cast hlong)
      simp only [durationParts, htotal, herror, Bind.bind, Except.bind]
    · refine .inr ⟨not_le.mp (mt hhours.mpr (not_le.mpr hshort)), ?_⟩
      have hnonneg : 0 ≤ total.value := by
        rw [value_of_positive (negative_finish htotal)]
        exact total.size_nonneg
      obtain ⟨hours, left, hhours, hcount, hleft, hleftSize, hleftFits⟩ := takeUnits_of_lt (by decide : 0 < 3600)
        le_rfl (fits_of_finish defaultPrecision_pos htotal) hnonneg (hshort.trans_eq (mul_comm _ _))
      obtain ⟨minutes, rest, hminutes, hcount', -, hrestSize, -⟩ := takeUnits_of_lt (by decide : 0 < 60)
        (by decide) hleftFits hleft (hleftSize.trans_lt (by norm_num [defaultPrecision]))
      have hwhole {n : ℕ} (hn : n < 10 ^ defaultPrecision) : (ofNat n).size < overflowBound defaultPrecision := by
        rw [size_ofNat]
        exact lt_trans (by exact_mod_cast hn) (pow_lt_overflowBound (n := defaultPrecision) (by decide))
      have hrest : rest.size < overflowBound defaultPrecision :=
        hrestSize.trans_lt (pow_lt_overflowBound (n := 4) (by decide))
      simp only [durationParts, htotal, hhours, hminutes, Bind.bind, Except.bind]
      refine ⟨_, rfl, fun part hpart => ?_⟩
      split at hpart
      · obtain rfl := List.mem_singleton.mp hpart
        exact hwhole (n := 0) (by decide)
      · have hmem := List.mem_of_mem_filter hpart
        simp only [List.mem_cons, List.not_mem_nil, or_false] at hmem
        rcases hmem with rfl | rfl | rfl
        · exact hwhole hcount
        · exact hwhole hcount'
        · exact hrest

/-- Rounding to whole seconds changes nothing where the hours have more digits than the precision. -/
theorem hours_le_toIntegral_iff {total : Decimal} {digits : ℕ} (hfits : total.Fits) (h : defaultPrecision ≤ digits) :
    3600 * 10 ^ digits ≤ total.size ↔ 10 ^ digits ≤ total.toIntegral.integerPart / 3600 := by
  rw [Nat.le_div_iff_mul_le (by decide)]
  rcases le_or_gt 0 total.exponent with hwhole | hplaces
  · have hround : total.toIntegral = total := if_pos hwhole
    rw [hround, size_of_nonneg hwhole, mul_comm]
    exact_mod_cast Iff.rfl
  · have hmany : (10 : ℚ) ^ defaultPrecision ≤ 10 ^ digits := pow_le_pow_right₀ (by norm_num) h
    have hmore : (1 : ℚ) ≤ 10 ^ defaultPrecision := one_le_pow₀ (by norm_num)
    have hsmall : total.size < 10 ^ defaultPrecision := by
      refine (size_lt_pow hfits.2.2).trans_le ?_
      rw [← zpow_natCast]
      exact zpow_le_zpow_right₀ (by norm_num) (by omega)
    obtain ⟨-, -, hnear, -⟩ := nearestEven_toIntegral total
    have hdistance := neg_le_abs (total.size - total.toIntegral.integerPart)
    rw [zpow_zero] at hnear
    refine iff_of_false (not_le.mpr (by linarith)) (not_le.mpr ?_)
    have hless : (total.toIntegral.integerPart : ℚ) < 10 ^ digits * 3600 := by linarith
    exact_mod_cast hless

/-- A timer is not shown just if its hours are not written. -/
theorem timer_cases (seconds : Decimal) :
    (hoursBound Text.Integer.mostDigits ≤ |seconds.value| ∧ ∃ f, timer seconds = .error f) ∨
    (|seconds.value| < hoursBound Text.Integer.mostDigits ∧ ∃ text, timer seconds = .ok text) := by
  have hmost := hoursBound_lt Text.Integer.mostDigits (by decide)
  have hprecision : defaultPrecision ≤ Text.Integer.mostDigits := by decide
  cases htotal : seconds.absolute with
  | error s =>
    have hbound := (absolute_eq_error_iff.mp htotal).2
    refine .inl ⟨hmost.le.trans hbound, Fault.ofSignal s, ?_⟩
    simp only [timer, htotal, Fault.arithmetic, Bind.bind, Except.bind]
  | ok total =>
    have hhours := hours_le_absolute_iff hprecision htotal
    have hwhole := hours_le_toIntegral_iff (fits_of_finish defaultPrecision_pos htotal) hprecision
    rcases Nat.lt_or_ge (total.toIntegral.integerPart / 3600) (10 ^ Text.Integer.mostDigits) with hshort | hlong
    · refine .inr ⟨not_le.mp (mt hhours.mpr (mt hwhole.mp (Nat.not_le.mpr hshort))), ?_⟩
      have hwrite : Text.Integer.write (total.toIntegral.integerPart / 3600) =
          .ok (Text.natDigits (total.toIntegral.integerPart / 3600)) := by
        rw [Text.Integer.write, Nat.pow_eq, if_neg (Nat.not_le.mpr hshort)]
      simp only [timer, htotal, Fault.arithmetic, hwrite, Bind.bind, Except.bind]
      exact ⟨_, rfl⟩
    · refine .inl ⟨hhours.mp (hwhole.mpr hlong), Text.Integer.tooLong none, ?_⟩
      have herror : Text.Integer.write (total.toIntegral.integerPart / 3600) = .error (Text.Integer.tooLong none) := by
        rw [Text.Integer.write, Nat.pow_eq, if_pos hlong]
      simp only [timer, htotal, Fault.arithmetic, herror, Bind.bind, Except.bind]

/-! Whole durations. -/

theorem duration_of_seconds (context : Context) (g : Graph) (style : Option String) {value : Value}
    (hv : value.seconds? = .ok (some seconds)) : duration context g style value =
      if durationStyle style == "timer" then
        Outcome.ofFault (timer seconds) >>= fun text => context.transliterate text
      else
        Outcome.arithmetic (durationParts seconds) >>= fun parts =>
          parts.mapM (durationPart context (durationWidth (durationStyle style))) >>= fun rendered =>
            joinItems context .unit (listWidth (durationWidth (durationStyle style))) rendered >>= fun text =>
              pure (if seconds.isNegative then "-" ++ text else text) := by
  unfold duration
  rw [hv]
  rfl

theorem duration_of_none (context : Context) (g : Graph) (style : Option String) {value : Value}
    (hv : value.seconds? = .ok none) : duration context g style value = pure (g.plainText value) := by
  unfold duration
  rw [hv]
  rfl

theorem duration_of_signal (context : Context) (g : Graph) (style : Option String) {value : Value} {s : Signal}
    (hv : value.seconds? = .error s) : (duration context g style value).Fails := by
  unfold duration
  rw [hv]
  exact ⟨_, rfl⟩

/-- In the default form only what is too large breaks. -/
theorem overflowBound_le_of_breaks {context : Context} {locale : String} {number : Decimal}
    (h : Number.Breaks context {} locale number) : overflowBound defaultPrecision ≤ number.size := by
  cases h with
  | scale h =>
    have hscale : ({} : Number.Spec).scale.size = 1 := (size_ofNat 1).trans Nat.cast_one
    have hfactor : ({} : Number.Spec).factor = 1 := by decide
    simpa [hscale, hfactor] using h
  | width most hm => cases hm
  | integer most scaled hm => cases hm
  | ordinal scaled magnitude l text ho => cases ho

section Answering

variable {context : Context} (ha : ∀ locale, context.backend.Answers locale)

include ha

theorem failsBy_plainAmount {amount : Decimal} (h : amount.size < overflowBound defaultPrecision) :
    (plainAmount context amount).FailsBy fun _ => False := by
  intro e he
  obtain ⟨number, locale, hnumber, -, -, hbreaks⟩ :=
    (Number.fails_render_iff (Number.degrades_of_answers ha) (some amount) amount.toString).mp ⟨e, he⟩
  obtain rfl := Option.some.inj hnumber
  exact absurd (overflowBound_le_of_breaks hbreaks) (not_le.mpr h)

theorem failsBy_durationPart (width : Number.UnitWidth) {part : String × Decimal}
    (h : part.2.size < overflowBound defaultPrecision) : (durationPart context width part).FailsBy fun _ => False := by
  unfold durationPart
  split
  case' h_1 => refine (failsBy_pure none).bind fun text => ?_
  case' h_2 locale _ =>
    refine (Number.failsBy_ask_of_answers ha (.formatUnit part.2 part.1 width {}) locale).bind fun text => ?_
  all_goals
    dsimp only
    split
    · exact failsBy_pure _
    · exact (failsBy_plainAmount ha h).bind fun amount => failsBy_pure _

theorem failsBy_joinItems (hlists : context.backend.JoinsPairs) (type : ListType) (width : ListWidth)
    (items : List String) : (joinItems context type width items).FailsBy fun _ => False := by
  have hjoin {p : ListPatterns} (hp : p.TwoPlaces) : (Outcome.ofFault (p.join items)).FailsBy fun _ => False := by
    obtain ⟨text, htext⟩ := hp.exists_join items
    rw [htext]
    exact failsBy_pure text
  unfold joinItems
  split
  · exact hjoin ListPatterns.twoPlaces_commas
  · rename_i locale _
    obtain ⟨patterns, hpatterns⟩ := ha locale (.listPatterns type width)
    rw [ask_of_answer hpatterns]
    intro e he
    cases patterns with
    | none => exact hjoin ListPatterns.twoPlaces_commas e he
    | some p => exact hjoin (hlists type width locale p hpatterns) e he

theorem failsBy_shown (hlists : context.backend.JoinsPairs) (width : Number.UnitWidth) (negative : Bool)
    {parts : List (String × Decimal)} (hsmall : ∀ part ∈ parts, part.2.size < overflowBound defaultPrecision) :
    (parts.mapM (durationPart context width) >>= fun rendered =>
      joinItems context .unit (listWidth width) rendered >>= fun text =>
        pure (if negative then "-" ++ text else text)).FailsBy fun _ => False :=
  (failsBy_mapM fun part hpart => failsBy_durationPart ha width (hsmall part hpart)).bind fun rendered =>
    (failsBy_joinItems ha hlists .unit (listWidth width) rendered).bind fun _ => failsBy_pure _

/-- A duration in seconds has no text just if it is too long for its style. -/
theorem fails_duration_of_seconds (hlists : context.backend.JoinsPairs) (g : Graph) (style : Option String)
    {value : Value} (hv : value.seconds? = .ok (some seconds)) : (duration context g style value).Fails ↔
      hoursBound (if durationStyle style = "timer" then Text.Integer.mostDigits else defaultPrecision) ≤
        |seconds.value| := by
  rw [duration_of_seconds context g style hv]
  split
  · rename_i hstyle
    rw [if_pos (by simpa using hstyle)]
    rcases timer_cases seconds with ⟨hlong, f, hf⟩ | ⟨hshort, text, htext⟩
    · refine iff_of_true ?_ hlong
      rw [hf]
      exact ⟨_, rfl⟩
    · refine iff_of_false ?_ (not_le.mpr hshort)
      rw [htext]
      exact Locale.Context.not_fails_transliterate (Number.degrades_of_answers ha) text
  · rename_i hstyle
    rw [if_neg (by simpa using hstyle)]
    rcases durationParts_cases seconds with ⟨hlong, s, hs⟩ | ⟨hshort, parts, hparts, hsmall⟩
    · refine iff_of_true ?_ hlong
      rw [hs]
      exact ⟨_, rfl⟩
    · refine iff_of_false ?_ (not_le.mpr hshort)
      rw [hparts]
      rintro ⟨e, he⟩
      exact failsBy_shown ha hlists _ _ hsmall e he

/-- With locale data that answers every request. A duration fails just if it is an ISO duration of which some part
overflows, by itself or added to those before it, or if it is too long: as units from 3600 times ten to the 28th seconds
on, up to rounding, and on a timer from as many hours on as cannot be written. -/
theorem duration_fails_iff (hlists : context.backend.JoinsPairs) (g : Graph) (style : Option String) (value : Value) :
    ((duration context g style value).Fails ↔
      (∃ s, value.seconds? = .error s) ∨ ∃ seconds, value.seconds? = .ok (some seconds) ∧
        hoursBound (if durationStyle style = "timer" then Text.Integer.mostDigits else defaultPrecision) ≤
          |seconds.value|) ∧
    ((∃ s, value.seconds? = .error s) ↔ ∃ text negative done part rest total, value = .text text ∧
      isoDuration? (Text.trim text.toList) = some (negative, done ++ part :: rest) ∧
        partsTotal done = .ok total ∧ PartOverflows total part) := by
  constructor
  · cases hv : value.seconds? with
    | error s => exact iff_of_true (duration_of_signal context g style hv) (.inl ⟨s, rfl⟩)
    | ok seconds =>
      cases seconds with
      | none =>
        rw [duration_of_none context g style hv]
        exact iff_of_false (not_fails_pure _) (by simp)
      | some seconds => simp [fails_duration_of_seconds ha hlists g style hv]
  · simp only [seconds?_eq_error_iff, partsTotal_eq_error_iff]
    constructor
    · rintro ⟨s, text, negative, parts, rfl, hiso, rfl, done, part, rest, total, rfl, hdone, hoverflows⟩
      exact ⟨text, negative, done, part, rest, total, rfl, hiso, hdone, hoverflows⟩
    · rintro ⟨text, negative, done, part, rest, total, rfl, hiso, hdone, hoverflows⟩
      exact ⟨.overflow, text, negative, _, rfl, hiso, rfl, done, part, rest, total, rfl, hdone, hoverflows⟩

end Answering

theorem joinsPairs_englishTable : englishTable.backend.JoinsPairs := by
  intro type width locale patterns h
  have hsome : englishTable.lists = some patterns := Except.ok.inj h
  obtain rfl := Option.some.inj hsome
  exact ⟨⟨[.first, .char ';', .char ' ', .second], rfl⟩, ⟨[.first, .char ',', .char ' ', .second], rfl⟩,
    ⟨[.first, .char ' ', .char '&', .char ' ', .second], rfl⟩,
    ⟨[.first, .char ' ', .char '+', .char ' ', .second], rfl⟩⟩

/-- The last duration that is shown as units, and the next one. -/
theorem duration_fails_iff_last : (∀ locale, englishContext.backend.Answers locale) ∧
    englishContext.backend.JoinsPairs ∧
    (∃ text, (duration englishContext {} none (.text "35999999999999999999999999994999")).result = .ok text) ∧
    (duration englishContext {} none (.text "35999999999999999999999999995000")).Fails := by
  have hstyle : ¬ durationStyle none = "timer" := by decide
  have hlast : (Value.text "35999999999999999999999999994999").seconds? =
      .ok (some ⟨false, 35999999999999999999999999994999, 0⟩) := by decide
  have hnext : (Value.text "35999999999999999999999999995000").seconds? =
      .ok (some ⟨false, 35999999999999999999999999995000, 0⟩) := by decide
  refine ⟨answers_english, joinsPairs_englishTable, ?_, ?_⟩
  · rw [← not_fails_iff, (duration_fails_iff answers_english joinsPairs_englishTable {} none _).1, hlast,
      if_neg hstyle]
    rintro (⟨s, hs⟩ | ⟨seconds, hs, hlong⟩)
    · cases hs
    · obtain rfl := Option.some.inj (Except.ok.inj hs)
      norm_num [hoursBound, defaultPrecision, abs_value, size] at hlong
  · rw [(duration_fails_iff answers_english joinsPairs_englishTable {} none _).1, hnext, if_neg hstyle]
    refine .inr ⟨_, rfl, ?_⟩
    norm_num [hoursBound, defaultPrecision, abs_value, size]

/-- Durations that are too long as units and on a timer. -/
theorem duration_too_long : (∀ locale, englishContext.backend.Answers locale) ∧
    englishContext.backend.JoinsPairs ∧
    (duration englishContext {} none (.text "1e32")).result =
      .error (.fault ⟨.invalidOperation, "[<class 'decimal.DivisionImpossible'>]"⟩) ∧
    (duration englishContext {} (some "timer") (.text "1e4304")).result =
      .error (.fault (Text.Integer.tooLong none)) :=
  ⟨answers_english, joinsPairs_englishTable, by decide, by decide +kernel⟩

end Format
end MessageFormat
