import MessageFormat.Locale.Context
import MessageFormat.Proofs.Outcome
import MessageFormat.Proofs.Text.Unmarked

/-!
Locale data that brings no angle brackets of its own into a text.
-/

set_option autoImplicit false

namespace MessageFormat

open Text

/-- Whatever text comes out has no angle brackets. -/
abbrev Outcome.YieldsUnmarked (o : Outcome String) : Prop := o.Yields fun s => Unmarked s.toList

/-- None of these texts has angle brackets. -/
abbrev AllUnmarked (texts : List String) : Prop := ∀ s ∈ texts, Unmarked s.toList

theorem allUnmarked_nil : AllUnmarked [] := fun _ h => (List.not_mem_nil h).elim

theorem allUnmarked_singleton {s : String} (h : Unmarked s.toList) : AllUnmarked [s] :=
  List.forall_mem_singleton.mpr h

def Number.RenderOptions.texts (options : RenderOptions) : List String :=
  options.currency.toList ++ options.pattern.toList

def Number.Symbols.texts (symbols : Symbols) : List String :=
  [symbols.plus, symbols.minus, symbols.exponential]

def ListPatterns.texts (p : ListPatterns) : List String := [p.start, p.middle, p.last, p.pair]

namespace Locale

/-- The texts that a request holds, names of constants apart. -/
def Request.texts : Request → List String
  | .formatNumber _ options => options.texts
  | .formatUnit _ unit _ options => unit :: options.texts
  | .datePattern _ style => [style]
  | .skeletonPattern skeleton | .formatInterval _ _ skeleton => [skeleton]
  | .formatMoment _ pattern => [pattern]
  | .formatRelative field _ _ => [field]
  | .pluralCategory .. | .numberingDigits | .numberSymbols | .ordinalSuffix _ | .defaultCurrency
  | .intervalFallback | .listPatterns .. => []

def Request.answerTexts : (request : Request) → request.Answer → List String
  | .pluralCategory .., s | .numberingDigits, s | .formatNumber .., s | .datePattern .., s
  | .formatMoment .., s | .intervalFallback, s | .formatInterval .., s => [s]
  | .numberSymbols, symbols => symbols.texts
  | .ordinalSuffix _, s | .defaultCurrency, s | .formatUnit .., s | .skeletonPattern _, s
  | .formatRelative .., s => s.toList
  | .listPatterns .., patterns => patterns.toList.flatMap ListPatterns.texts

/-- Where neither the locale nor a request has angle brackets, the answer has none. -/
def Backend.AddsNoMarkup (b : Backend) : Prop :=
  ∀ request locale answer, b.answer request locale = .ok answer → Unmarked locale.toList →
    AllUnmarked request.texts → AllUnmarked (request.answerTexts answer)

namespace Context

/-- A context from which angle brackets come only where a request has some. -/
structure AddsNoMarkup (c : Context) : Prop where
  backend : c.backend.AddsNoMarkup
  chain : AllUnmarked c.chain

namespace AddsNoMarkup

variable {c : Context} {kind : DataKind} {locale : String}

theorem localeFor (h : c.AddsNoMarkup) (hlocale : c.localeFor kind = some locale) :
    Unmarked locale.toList :=
  h.chain locale (List.mem_of_find?_eq_some hlocale)

theorem ask (h : c.AddsNoMarkup) (request : Request) (hlocale : Unmarked locale.toList)
    (htexts : AllUnmarked request.texts) :
    (c.ask request locale).Yields fun answer => AllUnmarked (request.answerTexts answer) :=
  Outcome.yields_ofFault fun answer hanswer => h.backend request locale answer hanswer hlocale htexts

theorem numberSymbols (h : c.AddsNoMarkup) :
    c.numberSymbols.Yields fun symbols => AllUnmarked symbols.texts := by
  unfold Context.numberSymbols
  split
  · exact Outcome.yields_pure (by decide)
  · rename_i locale hlocale
    exact h.ask .numberSymbols (h.localeFor hlocale) allUnmarked_nil

end AddsNoMarkup

theorem isAngle_digitIn {digits : List Char} (h : Unmarked digits) {c : Char}
    (hc : isAngle c = false) : isAngle (digitIn digits c) = false := by
  unfold digitIn
  split
  · rw [List.getD_eq_getElem?_getD]
    cases hdigit : digits[c.toNat - 48]? with
    | none => exact hc
    | some d => exact h d (List.mem_of_getElem? hdigit)
  · exact hc

theorem unmarked_replaceDigits {digits text : String} (h : Unmarked digits.toList)
    (htext : Unmarked text.toList) : Unmarked (replaceDigits digits text).toList := by
  unfold replaceDigits
  dsimp only
  split
  · exact htext
  · rw [String.toList_ofList]
    exact htext.map fun c hc => isAngle_digitIn h hc

theorem AddsNoMarkup.transliterate {c : Context} (h : c.AddsNoMarkup) {text : String}
    (htext : Unmarked text.toList) : (c.transliterate text).YieldsUnmarked := by
  unfold Context.transliterate
  split
  · exact Outcome.yields_pure htext
  · rename_i locale hlocale
    refine (h.ask .numberingDigits (h.localeFor hlocale) allUnmarked_nil).bind ?_
    intro digits hdigits
    exact Outcome.yields_pure (unmarked_replaceDigits (hdigits _ List.mem_cons_self) htext)

end Context
end Locale
end MessageFormat
