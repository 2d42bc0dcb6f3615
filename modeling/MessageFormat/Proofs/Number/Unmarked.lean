import MessageFormat.Number.Rendering
import MessageFormat.Number.Skeleton
import MessageFormat.Proofs.Locale.Unmarked
import MessageFormat.Proofs.Number.Stages
import MessageFormat.Proofs.Text.Case

/-!
Numbers that are rendered without angle brackets. A spec has texts of its own: a currency, a unit and a
pattern.
-/

set_option autoImplicit false

namespace MessageFormat

open Text
open MessageFormat.Locale (Context)

namespace Number

/-- The currency, the unit and the pattern, as far as there are any. -/
def Spec.texts (s : Spec) : List String := s.currency.toList ++ s.unit.toList ++ s.pattern.toList

def Token.texts : Token → List String
  | .currency code => [code]
  | .unit id => [id]
  | _ => []

/-! Skeletons. -/

theorem Token.allUnmarked_write {s : Spec} {t : Token} (hs : AllUnmarked s.texts)
    (ht : AllUnmarked t.texts) : AllUnmarked (t.write s).texts := by
  simp only [Spec.texts, AllUnmarked, List.forall_mem_append] at hs
  obtain ⟨⟨hcurrency, hunit⟩, hpattern⟩ := hs
  simp only [Spec.texts, AllUnmarked, List.forall_mem_append]
  cases t with
  | currency code => exact ⟨⟨ht, hunit⟩, hpattern⟩
  | unit id => exact ⟨⟨hcurrency, ht⟩, hpattern⟩
  | _ => exact ⟨⟨hcurrency, hunit⟩, hpattern⟩

namespace Token

/-- A token of this reading has no text in it. -/
def Textless (read : Option Token) : Prop := ∀ t ∈ read, t.texts = []

theorem textless_none : Textless none := nofun

theorem textless_some {t : Token} (h : t.texts = []) : Textless (some t) := by simpa [Textless] using h

theorem textless_map {α : Type} {make : α → Token} (h : ∀ a, (make a).texts = []) (o : Option α) :
    Textless (o.map make) := by
  cases o with
  | none => exact textless_none
  | some a => exact textless_some (h a)

theorem Textless.orElse {a b : Option Token} (ha : Textless a) (hb : Textless b) :
    Textless (a <|> b) := by
  cases a with
  | none => exact hb
  | some t => exact ha

theorem textless_readZeros (s : List Char) : Textless (readZeros s) := by
  unfold readZeros
  split
  · exact textless_some rfl
  · exact textless_none

theorem textless_readScientific (s : List Char) : Textless (readScientific s) := by
  unfold readScientific
  split
  · exact textless_map (fun _ => rfl) _
  · exact textless_none

theorem textless_readFraction (s : List Char) : Textless (readFraction s) := by
  unfold readFraction
  split
  · exact textless_map (fun _ => rfl) _
  · exact textless_none

theorem textless_readSignificant (s : List Char) : Textless (readSignificant s) := by
  unfold readSignificant
  split
  · exact textless_map (fun _ => rfl) _
  · exact textless_none

theorem textless_readIntegerWidth (s : List Char) : Textless (readIntegerWidth s) := by
  unfold readIntegerWidth
  split
  split
  split
  split
  · exact textless_none
  · split <;> exact textless_some rfl

theorem textless_keyword (word : String) : Textless (keywords.lookup word) := by
  have hall : ∀ e ∈ keywords, e.2.texts = [] := by decide
  intro t ht
  obtain ⟨before, after, hkeywords, -⟩ := List.lookup_eq_some_iff.mp ht
  exact hall (word, t) (hkeywords ▸ List.mem_append_right _ List.mem_cons_self)

theorem Textless.allUnmarked {o : Option Token} (h : Textless o) : ∀ t ∈ o, AllUnmarked t.texts :=
  fun t ht => (h t ht).symm ▸ allUnmarked_nil

theorem allUnmarked_readOption {stem option : List Char} (h : Unmarked option) :
    ∀ t ∈ readOption stem option, AllUnmarked t.texts := by
  unfold readOption
  split
  · rintro _ ⟨⟩
    exact allUnmarked_singleton (by simpa using unmarked_upper h)
  · rintro _ ⟨⟩
    exact allUnmarked_singleton (by simpa using h)
  · rintro _ ⟨⟩
    exact allUnmarked_singleton (by simpa using h)
  · exact (textless_map (fun _ => rfl) _).allUnmarked
  · exact (textless_readIntegerWidth _).allUnmarked
  · exact nofun

theorem allUnmarked_read {s : List Char} (hs : Unmarked s) :
    ∀ t ∈ read? s, AllUnmarked t.texts := by
  unfold read?
  split
  · rename_i t ht
    exact Textless.allUnmarked (ht ▸ textless_keyword _)
  · split
    · rename_i stem c option hcut
      exact allUnmarked_readOption (unmarked_of_cut hs (congrArg Prod.snd hcut))
    · have hzeros := (textless_readZeros s).orElse (textless_readScientific s)
      exact ((textless_readFraction s).orElse ((textless_readSignificant s).orElse hzeros)).allUnmarked

end Token

theorem Spec.allUnmarked_ofSkeleton {s : List Char} (hs : Unmarked s) :
    AllUnmarked (Spec.ofSkeleton s).texts := by
  have hwords : ∀ word ∈ skeletonWords s, Unmarked word := by
    refine unmarked_fields ?_
    cases hstrip : strip? [':', ':'] (trim s) with
    | none => exact unmarked_trim hs
    | some r => exact unmarked_of_strip? (unmarked_trim hs) hstrip
  have hread : ∀ (words : List (List Char)) (spec : Spec), (∀ word ∈ words, Unmarked word) →
      AllUnmarked spec.texts → AllUnmarked (words.foldl readWord spec).texts := by
    intro words
    induction words with
    | nil => exact fun spec _ h => h
    | cons word words ih =>
      intro spec hwords hspec
      obtain ⟨hword, hrest⟩ := List.forall_mem_cons.mp hwords
      refine ih _ hrest ?_
      unfold readWord
      split
      · exact Token.allUnmarked_write hspec (Token.allUnmarked_read hword _ ‹_›)
      · exact hspec
  exact hread _ {} hwords allUnmarked_nil

/-! Rendering. -/

variable {context : Context} (h : context.AddsNoMarkup) {spec : Spec} (hspec : AllUnmarked spec.texts)
  {locale : String} (hlocale : Unmarked locale.toList)

theorem unmarked_withSign {policy : SignDisplay} {symbols : Symbols} {text : String}
    (hsymbols : AllUnmarked symbols.texts) (htext : Unmarked text.toList) (negative zero : Bool) :
    Unmarked (withSign policy symbols negative zero text).toList := by
  have hplus : Unmarked symbols.plus.toList := hsymbols _ (by simp [Symbols.texts])
  have hminus : Unmarked symbols.minus.toList := hsymbols _ (by simp [Symbols.texts])
  unfold withSign
  cases policy <;> cases negative <;> cases zero <;> simp +decide [hplus, hminus, htext]

theorem unmarked_exponent {symbols : Symbols} (hminus : Unmarked symbols.minus.toList) (e : Int) :
    Unmarked (if e < 0 then symbols.minus ++ toString e.natAbs else toString e).toList := by
  split
  · rw [String.toList_append]
    exact unmarked_append.mpr ⟨hminus, unmarked_toString _⟩
  · obtain ⟨n, rfl⟩ := Int.eq_ofNat_of_zero_le (Int.not_lt.mp ‹_›)
    exact unmarked_toString n

section

include hspec

theorem allUnmarked_optionsOf (l : Limited) : AllUnmarked (optionsOf spec l).texts := by
  intro text htext
  refine hspec text ?_
  rcases List.mem_append.mp htext with htext | htext
  · exact List.mem_append_left _ (List.mem_append_left _ htext)
  · exact List.mem_append_right _ htext

include h hlocale

theorem yields_formatNumber (l : Limited) :
    (context.ask (.formatNumber l.magnitude (optionsOf spec l)) locale).YieldsUnmarked :=
  fun text htext => h.ask (.formatNumber l.magnitude (optionsOf spec l)) hlocale
    (allUnmarked_optionsOf hspec l) text htext text List.mem_cons_self

theorem yields_renderScientific (l : Limited) :
    (renderScientific context spec locale l).YieldsUnmarked := by
  have hoptions := allUnmarked_optionsOf hspec l
  refine (Outcome.yields_any _).bind fun mantissa _ => ?_
  refine Outcome.Yields.bind (h.ask _ hlocale hoptions) fun text htext => ?_
  refine h.numberSymbols.bind fun symbols hsymbols => ?_
  have hminus : Unmarked symbols.minus.toList := hsymbols _ (by simp [Symbols.texts])
  have hexponential : Unmarked symbols.exponential.toList := hsymbols _ (by simp [Symbols.texts])
  have hexponent := unmarked_exponent hminus (exponentOf spec l.magnitude)
  have htext : Unmarked text.toList := htext text List.mem_cons_self
  have hsuffix : Unmarked (if spec.percent then "%" else if spec.permille then "‰" else "").toList := by
    split_ifs <;> decide
  refine Outcome.yields_pure ?_
  simp only [String.toList_append, unmarked_append]
  exact ⟨⟨⟨htext, hexponential⟩, hexponent⟩, hsuffix⟩

theorem yields_renderUnit {unit : String} (hunit : Unmarked unit.toList) (l : Limited) :
    (renderUnit context spec unit locale l).YieldsUnmarked := by
  have hoptions := allUnmarked_optionsOf hspec l
  have hunitLocale : Unmarked ((context.localeFor .unit).getD locale).toList := by
    cases hfor : context.localeFor .unit with
    | none => exact hlocale
    | some unitLocale => exact h.localeFor hfor
  refine Outcome.Yields.bind (h.ask _ hunitLocale ?_) fun text htext => ?_
  · exact List.forall_mem_cons.mpr ⟨hunit, hoptions⟩
  split
  · rename_i text' hsome
    have hmem : text' ∈ text := (Option.filter_eq_some_iff.mp hsome).1
    exact Outcome.yields_pure (htext text' (by simpa [Locale.Request.answerTexts] using hmem))
  · refine (yields_formatNumber h hspec hlocale l).bind fun number hnumber => ?_
    exact Outcome.yields_pure (by simp +decide [hnumber, hunit])

theorem yields_renderMagnitude (l : Limited) :
    (renderMagnitude context spec locale l).YieldsUnmarked := by
  unfold renderMagnitude
  split
  · exact yields_renderScientific h hspec hlocale l
  · split
    · rename_i unit hunit
      refine yields_renderUnit h hspec hlocale (hspec unit ?_) l
      simp [Spec.texts, hunit]
    · exact yields_formatNumber h hspec hlocale l

end

include h in
theorem yields_ordinalSuffix (magnitude : Decimal) :
    (ordinalSuffix context magnitude).YieldsUnmarked := by
  unfold ordinalSuffix
  split
  · exact Outcome.yields_pure (by decide)
  · rename_i locale hlocale
    refine (Outcome.yields_any _).bind fun category _ => ?_
    refine (h.ask (.ordinalSuffix category) (h.localeFor hlocale) allUnmarked_nil).bind ?_
    intro suffix hsuffix
    refine Outcome.yields_pure ?_
    cases suffix with
    | none => decide
    | some suffix => exact hsuffix suffix List.mem_cons_self

include h in
theorem yields_decorate (number : Decimal) (l : Limited) {text : String}
    (htext : Unmarked text.toList) : (decorate context spec number l text).YieldsUnmarked := by
  have hsuffix : (if spec.ordinal && !spec.form.isScientific then ordinalSuffix context l.magnitude
      else pure "").YieldsUnmarked := by
    split
    · exact yields_ordinalSuffix h _
    · exact Outcome.yields_pure (by decide)
  refine hsuffix.bind fun suffix hsuffix => h.numberSymbols.bind fun symbols hsymbols => ?_
  exact h.transliterate (unmarked_withSign hsymbols (by simp [htext, hsuffix]) _ _)

theorem unmarked_of_localeOf (h : context.AddsNoMarkup) (hlocale : localeOf context spec = some locale) :
    Unmarked locale.toList := by
  rw [localeOf, Option.orElse_eq_orElse, Option.orElse_eq_or, Option.or_eq_some_iff] at hlocale
  rcases hlocale with hcurrency | ⟨-, hnumber⟩
  · split at hcurrency
    · exact h.localeFor hcurrency
    · cases hcurrency
  · exact h.localeFor hnumber

include h hspec in
theorem yields_render (number : Option Decimal) {plain : String} (hplain : Unmarked plain.toList) :
    (render context spec number plain).YieldsUnmarked := by
  have hkept : (pure plain : Outcome String).YieldsUnmarked := Outcome.yields_pure hplain
  cases number with
  | none => exact hkept
  | some number =>
    by_cases hliteral : spec.isLiteralFallback = true
    · exact render_of_literal hliteral ▸ hkept
    cases hlocale : localeOf context spec with
    | none => exact render_of_no_locale hlocale ▸ hkept
    | some locale =>
      rw [render_of_locale (by simpa using hliteral) hlocale]
      refine (Outcome.yields_any _).bind fun number _ => ?_
      refine (Outcome.yields_any _).bind fun magnitude _ => ?_
      refine (Outcome.yields_any _).bind fun l _ => ?_
      have hrendered := yields_renderMagnitude h hspec (unmarked_of_localeOf h hlocale) l
      have hrendering : (rendering context spec locale l).Yields fun text => AllUnmarked text.toList := by
        refine Outcome.Yields.recover ?_ ?_ _
        · exact hrendered.map fun text htext => allUnmarked_singleton htext
        · exact Outcome.yields_pure allUnmarked_nil
      refine hrendering.bind fun text htext => ?_
      cases text with
      | none => exact hkept
      | some text => exact yields_decorate h number l (htext text List.mem_cons_self)

end Number
end MessageFormat
