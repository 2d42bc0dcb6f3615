import MessageFormat.Format.Number
import MessageFormat.Proofs.Number.Stages

/-!
The magnitude that the locale data is asked to render. It is the one that comes out of the stages before the
rendering, and no other.
-/

set_option autoImplicit false

namespace MessageFormat

open MessageFormat.Locale (Context)

/-- The magnitude that a request hands over to be rendered. -/
def Locale.Request.magnitude? : Locale.Request → Option Decimal
  | .formatNumber magnitude _ => some magnitude
  | .formatUnit magnitude _ _ _ => some magnitude
  | _ => none

namespace Outcome

variable {α β : Type} {m : Decimal}

/-- This magnitude is handed over to be rendered. -/
def Hands (m : Decimal) (o : Outcome α) : Prop := ∃ call ∈ o.calls, call.request.magnitude? = some m

theorem not_hands_pure (a : α) : ¬ (pure a : Outcome α).Hands m := fun ⟨_, h, _⟩ => List.not_mem_nil h

theorem not_hands_ofFault (r : Except Fault α) : ¬ (ofFault r).Hands m :=
  fun ⟨_, h, _⟩ => List.not_mem_nil h

theorem not_hands_arithmetic (r : Except Decimal.Signal α) : ¬ (arithmetic r).Hands m :=
  not_hands_ofFault _

theorem hands_bind_iff {o : Outcome α} {f : α → Outcome β} :
    (o >>= f).Hands m ↔ o.Hands m ∨ ∃ a, o.result = .ok a ∧ (f a).Hands m := by
  obtain ⟨calls, result⟩ := o
  cases result with
  | error e => simp [Hands, Outcome.bind]
  | ok a => simp [Hands, Outcome.bind, or_and_right, exists_or]

theorem hands_ask_iff {context : Context} {request : Locale.Request} {locale : String} :
    (context.ask request locale).Hands m ↔ request.magnitude? = some m := by
  simp [Hands, Context.ask, ask]

/-- What is asked for in vain is asked for all the same. -/
theorem hands_recover_pure_iff {o : Outcome α} {kinds : List FaultKind} {instead : α} :
    (o.recover kinds (pure instead)).Hands m ↔ o.Hands m := by
  unfold recover
  split
  · split
    · simp [Hands]
    · rfl
  · rfl

end Outcome

namespace Locale.Context

open Outcome

variable {context : Context} {m : Decimal}

theorem not_hands_ask {request : Request} (h : request.magnitude? = none) (locale : String) :
    ¬ (context.ask request locale).Hands m := by
  rw [hands_ask_iff, h]
  exact fun h => by cases h

theorem not_hands_numberSymbols : ¬ context.numberSymbols.Hands m := by
  unfold numberSymbols
  split
  · exact not_hands_pure _
  · exact not_hands_ask rfl _

theorem not_hands_transliterate (text : String) : ¬ (context.transliterate text).Hands m := by
  unfold transliterate
  split
  · exact not_hands_pure _
  · rw [hands_bind_iff]
    rintro (h | ⟨digits, -, h⟩)
    · exact not_hands_ask rfl _ h
    · exact not_hands_pure _ h

theorem not_hands_pluralCategory (value : Value) (ordinal : Bool) :
    ¬ (context.pluralCategory value ordinal).Hands m := by
  unfold pluralCategory
  split
  · exact not_hands_pure _
  · simp only [hands_bind_iff]
    rintro (h | ⟨operands, -, h | ⟨name, -, h⟩⟩)
    · exact not_hands_ofFault _ h
    · exact not_hands_ask rfl _ h
    · exact not_hands_pure _ h

end Locale.Context

namespace Number

open Outcome MessageFormat.Locale.Context

variable {context : Context} {spec : Spec} {locale plain : String} {number m : Decimal} {l : Limited}

theorem not_hands_ordinalSuffix (magnitude : Decimal) : ¬ (ordinalSuffix context magnitude).Hands m := by
  unfold ordinalSuffix
  split
  · exact not_hands_pure _
  · simp only [hands_bind_iff]
    rintro (h | ⟨category, -, h | ⟨suffix, -, h⟩⟩)
    · exact not_hands_pluralCategory _ _ h
    · exact not_hands_ask rfl _ h
    · exact not_hands_pure _ h

theorem not_hands_decorate (text : String) : ¬ (decorate context spec number l text).Hands m := by
  unfold decorate
  simp only [hands_bind_iff]
  rintro (h | ⟨suffix, -, h | ⟨symbols, -, h⟩⟩)
  · split at h
    · exact not_hands_ordinalSuffix _ h
    · exact not_hands_pure _ h
  · exact not_hands_numberSymbols h
  · exact not_hands_transliterate _ h

/-- With its unit, or without it where the unit is not known, one magnitude is rendered. -/
theorem hands_renderMagnitude_iff (hform : spec.form.isScientific = false) :
    (renderMagnitude context spec locale l).Hands m ↔ m = l.magnitude := by
  have hnumber : (context.ask (.formatNumber l.magnitude (optionsOf spec l)) locale).Hands m ↔
      m = l.magnitude := by
    rw [hands_ask_iff, Locale.Request.magnitude?, Option.some.injEq, eq_comm]
  unfold renderMagnitude
  rw [hform, if_neg Bool.false_ne_true]
  split
  · rename_i unit _
    unfold renderUnit
    rw [hands_bind_iff, hands_ask_iff, Locale.Request.magnitude?, Option.some.injEq, eq_comm,
      or_iff_left_iff_imp]
    rintro ⟨text, -, h⟩
    split at h
    · exact (not_hands_pure _ h).elim
    · rcases hands_bind_iff.mp h with h | ⟨rendered, -, h⟩
      · exact hnumber.mp h
      · exact (not_hands_pure _ h).elim
  · exact hnumber

theorem hands_rendering_iff : (rendering context spec locale l).Hands m ↔
    (renderMagnitude context spec locale l).Hands m := by
  rw [rendering, hands_recover_pure_iff, map_eq_pure_bind, hands_bind_iff, or_iff_left_iff_imp]
  rintro ⟨text, -, h⟩
  exact (not_hands_pure _ h).elim

/-- A magnitude is handed over just if it is when what comes out of the stages before is rendered. -/
theorem hands_renderAt_iff : (renderAt context spec locale number plain).Hands m ↔
    ∃ s cut l, scaled spec number = .ok s ∧ truncated spec s.magnitude = .ok cut ∧
      limited spec cut = .ok l ∧ (renderMagnitude context spec locale l).Hands m := by
  have hrest (s : Decimal) (l : Limited) (text : Option String) :
      ¬ (text.elim (pure plain) (decorate context spec s l)).Hands m := by
    cases text with
    | none => exact not_hands_pure _
    | some text => exact not_hands_decorate text
  unfold renderAt
  simp only [hands_bind_iff, not_hands_arithmetic, result_arithmetic_eq_ok_iff, hands_rendering_iff,
    hrest, and_false, exists_false, or_false, false_or]
  simp only [← exists_and_left]

end Number

namespace Format

open Outcome
open Number (Spec)

/-- Of a number under a spec one magnitude is rendered, unless the value is no number, no token of the spec was
understood, there is no locale or there is no such magnitude. -/
theorem hands_numberWith_iff {context : Context} {g : Graph} {spec : Spec} {value : Value} {m : Decimal}
    (hform : spec.form.isScientific = false) : (numberWith context g spec value).Hands m ↔
      ∃ number s cut l, value.decimal? = some number ∧ spec.isLiteralFallback = false ∧
        (∃ locale, Number.localeOf context spec = some locale) ∧ Number.scaled spec number = .ok s ∧
        Number.truncated spec s.magnitude = .ok cut ∧ Number.limited spec cut = .ok l ∧ m = l.magnitude := by
  unfold numberWith
  cases hv : value.decimal? with
  | none =>
    rw [Number.render_none]
    exact iff_of_false (not_hands_pure _) (by simp)
  | some number =>
    cases hl : spec.isLiteralFallback with
    | true =>
      rw [Number.render_of_literal hl]
      exact iff_of_false (not_hands_pure _) (by simp)
    | false =>
      cases hlocale : Number.localeOf context spec with
      | none =>
        rw [Number.render_of_no_locale hlocale]
        exact iff_of_false (not_hands_pure _) (by simp)
      | some locale =>
        rw [Number.render_of_locale hl hlocale, Number.hands_renderAt_iff]
        simp [Number.hands_renderMagnitude_iff hform]

end Format
end MessageFormat
