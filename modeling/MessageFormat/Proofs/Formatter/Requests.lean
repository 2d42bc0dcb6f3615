import Mathlib
import MessageFormat.Locale.Table
import MessageFormat.Proofs.Evaluation.Requests
import MessageFormat.Proofs.Formatter.SharedCache

/-!
Where the requests of a formatter go.
-/

set_option autoImplicit false

namespace MessageFormat.Formatter

/-- Whatever the pattern, the arguments and the way they are taken, and whether or not a text comes out,
every request to locale data is made for the first locale of the chain that has data of the kind that the
request is about. Amounts of a currency are about numbers where the chain has no data of currencies, and
units are about what their numbers are where it has none of units. So no request is made for an identifier
outside of the chain, nor for kinds that the whole chain lacks. -/
theorem format_serves (f : Formatter) (cache : Option Pattern.Cache) (mode : Mode) (pattern : String)
    (g : Graph) (value : Value) : ∀ call ∈ (f.format cache mode pattern g value).1.calls,
      f.context.Serves call ∧ call.locale ∈ f.context.chain ∧
        ∃ kind ∈ call.request.kinds, ¬ Locale.Lacks f.context.backend f.context.chain kind := by
  intro call hcall
  have hserves : f.context.Serves call := by
    unfold format at hcall
    split at hcall
    · exact (Evaluator.served_message _ _ _).calls call hcall
    · exact (List.not_mem_nil hcall).elim
  exact ⟨hserves, hserves.mem⟩

/-- One locale has data of numbers, the other one data of currencies. -/
def partedFormatter : Formatter where
  options := {}
  context := .build (Locale.Table.backend { kinds := [("de", [.number]), ("en", [.currency])] }) "de" "en"

set_option maxRecDepth 4000 in
/-- An amount is asked of the locale that has currencies, its signs and digits of the one with numbers. -/
theorem format_serves_currency : ∃ (pattern : String) (g : Graph) (call : Locale.Call),
    pattern = "\x7bn, number, ::currency/EUR\x7d" ∧ g = ⟨[.map [(.text "n", .int 1)]]⟩ ∧
    call = ⟨.numberSymbols, "de"⟩ ∧
    (partedFormatter.format none .message pattern g (.node 0)).1.calls.map Locale.Call.locale =
      ["en", "de", "de"] ∧
    call ∈ (partedFormatter.format none .message pattern g (.node 0)).1.calls ∧
    partedFormatter.context.Serves call ∧ call.locale ∈ partedFormatter.context.chain ∧
      ∃ kind ∈ call.request.kinds,
        ¬ Locale.Lacks partedFormatter.context.backend partedFormatter.context.chain kind := by
  have hparse : ({} : Options).patternSettings.parse "\x7bn, number, ::currency/EUR\x7d".toList =
      .ok ⟨[.call ⟨"number", "n", some "::currency/EUR", some { currency := some "EUR" }, none⟩]⟩ := by
    cbv
  have hf := format_of_parse (f := partedFormatter) hparse .message ⟨[.map [(.text "n", .int 1)]]⟩
    (.node 0)
  have hmem : ⟨.numberSymbols, "de"⟩ ∈ (partedFormatter.format none .message
      "\x7bn, number, ::currency/EUR\x7d" ⟨[.map [(.text "n", .int 1)]]⟩ (.node 0)).1.calls := by
    rw [hf]
    decide +kernel
  refine ⟨_, _, _, rfl, rfl, rfl, ?_, hmem, format_serves _ none .message _ _ _ _ hmem⟩
  rw [hf]
  decide +kernel

end MessageFormat.Formatter
