import MessageFormat.Locale.Table
import MessageFormat.Proofs.Evaluation.Unmarked
import MessageFormat.Proofs.Formatter.Markup
import MessageFormat.Proofs.Formatter.SharedCache

/-!
Markup that is formatted has angle brackets only from its pattern, from locale data, or from extensions of
the host. No argument brings one in.
-/

set_option autoImplicit false

namespace MessageFormat

open Text

theorem Graph.gives_get_escapeEntries (g : Graph) (entries : List (Value × Value)) (name : String) :
    Gives Value.IsUnmarked ((Arguments.named (g.escapeEntries entries)).get name) := by
  refine gives_ok ?_
  rw [escapeEntries, List.find?_map]
  cases entries.find? _ with
  | none => exact trivial
  | some e => exact g.isUnmarked_escape e.2

namespace Locale.Table

theorem unmarked_optionText {s : Option String} (h : ∀ t ∈ s, Unmarked t.toList) :
    Unmarked (optionText s).toList := by
  cases s with
  | none => decide
  | some t => exact h t rfl

theorem unmarked_markedNumber {locale : String} {options : Number.RenderOptions}
    (hlocale : Unmarked locale.toList) (h : AllUnmarked options.texts) (magnitude : Decimal) :
    Unmarked (markedNumber locale magnitude options).toList := by
  have hcurrency : Unmarked (optionText options.currency).toList :=
    unmarked_optionText fun s hs => h s (List.mem_append_left _ (Option.mem_toList.mpr hs))
  have hpattern : Unmarked (optionText options.pattern).toList :=
    unmarked_optionText fun s hs => h s (List.mem_append_right _ (Option.mem_toList.mpr hs))
  have hnumber : ∀ n, Unmarked (optionNumber n).toList := by
    intro n
    cases n with
    | none => decide
    | some n => exact unmarked_toString n
  have hstyle : Unmarked options.style.text.toList := by cases options.style <;> decide
  have hdisplay : Unmarked options.currencyDisplay.text.toList := by
    cases options.currencyDisplay <;> decide
  have hgrouping : Unmarked (if options.grouping then "g" else "-").toList := by
    split <;> decide
  have hfields : Unmarked (";".intercalate [options.style.text, toString options.minInteger,
      optionNumber options.minFraction, optionNumber options.maxFraction,
      if options.grouping then "g" else "-", optionText options.currency,
      options.currencyDisplay.text, optionText options.pattern]).toList := by
    rw [String.toList_intercalate]
    refine unmarked_intercalate (by decide) ?_
    simp only [List.map_cons, List.map_nil, List.forall_mem_cons, List.not_mem_nil, false_imp_iff,
      implies_true, and_true]
    exact ⟨hstyle, unmarked_toString _, hnumber _, hnumber _, hgrouping, hcurrency, hdisplay, hpattern⟩
  simp only [markedNumber, String.toList_append, unmarked_append]
  refine ⟨⟨⟨⟨?_, by decide⟩, hfields⟩, by decide⟩, hlocale⟩
  simp [Decimal.toString]

/-- Tables that are told nothing but which data there are, apart from times relative to now, whose texts
are marked by angle brackets. -/
theorem addsNoMarkup (kinds : List (String × List DataKind)) :
    (backend { kinds, relative := none }).AddsNoMarkup := by
  intro request locale answer h hlocale htexts
  cases request with
  | pluralCategory operands ordinal =>
    obtain rfl := Except.ok.inj h
    refine allUnmarked_singleton (s := PluralRule.english.category operands ordinal) ?_
    unfold PluralRule.category PluralRule.ordinal
    dsimp only
    split_ifs
    · decide
    · split <;> decide
    · decide
    · decide
  | numberingDigits =>
    obtain rfl := Except.ok.inj h
    exact allUnmarked_singleton (show Unmarked "0123456789".toList by decide)
  | numberSymbols =>
    obtain rfl := Except.ok.inj h
    exact (show AllUnmarked ["+", "-", "E"] by decide)
  | formatNumber magnitude options =>
    obtain rfl := Except.ok.inj h
    exact allUnmarked_singleton (unmarked_markedNumber hlocale htexts magnitude)
  | datePattern kind style =>
    obtain rfl := Except.ok.inj h
    have hstyle : Unmarked style.toList := htexts style List.mem_cons_self
    have hkind : Unmarked kind.text.toList := by cases kind <;> decide
    exact allUnmarked_singleton (s := kind.text ++ "-" ++ style) (by simp +decide [hkind, hstyle])
  | formatMoment moment pattern =>
    obtain rfl := Except.ok.inj h
    have hpattern : Unmarked pattern.toList := htexts pattern List.mem_cons_self
    exact allUnmarked_singleton (s := iso moment ++ "|" ++ pattern) (by simp +decide [iso, hpattern])
  | intervalFallback =>
    obtain rfl := Except.ok.inj h
    exact allUnmarked_singleton (show Unmarked "\x7b0\x7d ~ \x7b1\x7d".toList by decide)
  | formatInterval start stop skeleton =>
    obtain rfl := Except.ok.inj h
    have hskeleton : Unmarked skeleton.toList := htexts skeleton List.mem_cons_self
    exact allUnmarked_singleton (s := iso start ++ ".." ++ iso stop ++ "|" ++ skeleton)
      (by simp +decide [iso, hskeleton])
  | listPatterns type width =>
    obtain rfl := Except.ok.inj h
    exact (show AllUnmarked ["\x7b0\x7d; \x7b1\x7d", "\x7b0\x7d, \x7b1\x7d", "\x7b0\x7d & \x7b1\x7d",
      "\x7b0\x7d + \x7b1\x7d"] by decide)
  | ordinalSuffix | defaultCurrency | formatUnit | skeletonPattern | formatRelative =>
    obtain rfl := Except.ok.inj h
    exact allUnmarked_nil

end Locale.Table

namespace Formatter

open Pattern (Cache)

variable {f : Formatter} {calls : List (Formatter × Request)} {cache : Option Cache}

/-- A message that a formatter is given has been read off its pattern, under some settings. -/
theorem parse_of_filled (hcache : ∀ c ∈ cache, Filled calls c) {pattern : String} {m : Message}
    (h : (f.parse cache pattern).1 = .ok m) :
    ∃ settings : Pattern.Settings, settings.parse pattern.toList = .ok m := by
  cases cache with
  | none => exact ⟨_, Message.parse_of_ofPattern h⟩
  | some c =>
    rcases (Cache.getOrCompute_spec c ⟨pattern, f.options.ignoreTags⟩ (f.own pattern)).1 with
      hown | ⟨kept, hmem, hkept⟩
    · exact ⟨_, Message.parse_of_ofPattern (hown.symm.trans h)⟩
    · obtain rfl : kept = m := Except.ok.inj (hkept.symm.trans h)
      obtain ⟨g, request, -, -, hkey, hown⟩ := hcache c rfl _ hmem
      rw [← (Cache.Key.mk.inj hkey).1] at hown
      exact ⟨_, Message.parse_of_ofPattern hown⟩

theorem evaluator_addsNoMarkup (hcontext : f.context.AddsNoMarkup) (hcustom : f.customFormatters = {})
    (g : Graph) (value : Value) : (f.evaluator .markup g value).AddsNoMarkup where
  context := hcontext
  arguments := g.gives_get_escapeEntries _
  formatters := fun name => by
    rw [evaluator, hcustom]
    rfl

/-- Data of all kinds for one locale. Rendered numbers name it. -/
def tableOf (locale : String) : Locale.Table := { kinds := [(locale, DataKind.all)], relative := none }

/-- A formatter for this locale with that data. -/
def formatterOf (locale : String) : Formatter :=
  { options := {}, context := .build (tableOf locale).backend locale "en" }

end Formatter
end MessageFormat
