import Mathlib.Data.List.Forall2
import MessageFormat.Proofs.Evaluation.Requests
import MessageFormat.Proofs.Locale.Fallback
import MessageFormat.Proofs.Locale.Spelling
import MessageFormat.Proofs.Pattern.Cache
import MessageFormat.Provider

/-!
What a provider answers is what formatters answer that are made anew for each request and keep nothing. Its
formatters, what they know of their locales, and the cache that they share do not show.
-/

set_option autoImplicit false

namespace MessageFormat

open MessageFormat.Locale (Alike hyphenated)
open Pattern (Cache)

theorem Message.ofPattern_ne_unsupported (settings : Pattern.Settings) (pattern requested : String)
    (available : List String) :
    Message.ofPattern settings pattern ≠ .error (.unsupportedLocale requested available) := by
  unfold Message.ofPattern
  cases settings.parse pattern.toList with
  | ok message => exact fun h => nomatch h
  | error r => cases r <;> exact fun h => nomatch h

namespace Formatter

variable {backend : Locale.Backend} {options : Options} {locale : String} {f : Formatter}
  {cache : Option Cache}

/-- What a key of a cache parses to under these options. -/
def reading (options : Options) (key : Cache.Key) : Except Error Message :=
  Message.ofPattern options.patternSettings key.pattern

theorem of_build (h : build backend options locale = .ok f) :
    f.options = options ∧ f.context = .build backend locale options.fallbackLocale := by
  simp only [build, bind, Except.bind] at h
  split at h
  · cases h
  · split at h
    · cases h
    · split at h
      · cases h
      · cases h
        exact ⟨rfl, rfl⟩

/-- Whether formatters cache makes no difference to how they are made. -/
theorem build_uncached (backend : Locale.Backend) (options : Options) (locale : String) :
    build backend { options with enableCache := false } locale =
      (build backend options locale).map fun f =>
        { f with options := { options with enableCache := false } } := by
  simp only [build, bind, Except.bind]
  split
  · rfl
  · split
    · rfl
    · split <;> rfl

theorem parse_of_holds (h : ∀ c ∈ cache, c.Holds (reading f.options)) (pattern : String) :
    (f.parse cache pattern).1 = (f.parse none pattern).1 ∧
      ∀ c ∈ (f.parse cache pattern).2, c.Holds (reading f.options) := by
  cases cache with
  | none => exact ⟨rfl, h⟩
  | some c =>
    obtain ⟨hparsed, hafter⟩ := (h c rfl).getOrCompute ⟨pattern, f.options.ignoreTags⟩
    refine ⟨hparsed, fun c' hc' => ?_⟩
    rw [← Option.some.inj hc']
    exact hafter

/-- A cache that holds what its keys parse to is not seen in the texts. -/
theorem format_of_holds (h : ∀ c ∈ cache, c.Holds (reading f.options)) (mode : Mode) (pattern : String)
    (g : Graph) (value : Value) :
    (f.format cache mode pattern g value).1 = (f.format none mode pattern g value).1 ∧
      ∀ c ∈ (f.format cache mode pattern g value).2, c.Holds (reading f.options) := by
  obtain ⟨hparsed, hafter⟩ := parse_of_holds h pattern
  unfold format
  rcases hp : f.parse cache pattern with ⟨parsed, cache'⟩
  rcases hn : f.parse none pattern with ⟨alone, cache''⟩
  rw [hp] at hparsed hafter
  rw [hn] at hparsed
  obtain rfl : parsed = alone := hparsed
  cases parsed with
  | error e => exact ⟨rfl, hafter⟩
  | ok message => exact ⟨rfl, hafter⟩

/-- A formatter has its locale: no request to it fails for want of one. -/
theorem format_ne_unsupported (f : Formatter) (cache : Option Cache) (mode : Mode) (pattern : String)
    (g : Graph) (value : Value) (requested : String) (available : List String) :
    (f.format cache mode pattern g value).1.result ≠
      .error (.unsupportedLocale requested available) := by
  have hparse : (f.parse cache pattern).1 ≠ .error (.unsupportedLocale requested available) := by
    have hown := Message.ofPattern_ne_unsupported f.options.patternSettings pattern requested available
    cases cache with
    | none => exact hown
    | some c =>
      rcases (c.getOrCompute_spec ⟨pattern, f.options.ignoreTags⟩
        (Message.ofPattern f.options.patternSettings pattern)).1 with h | ⟨message, -, h⟩
      · exact fun he => hown (h.symm.trans he)
      · exact fun he => nomatch h.symm.trans he
  intro h
  unfold format at h
  rcases hp : f.parse cache pattern with ⟨e | message, cache'⟩
  · rw [hp] at h hparse
    exact hparse (congrArg Except.error (Except.error.inj h))
  · rw [hp] at h
    exact (Evaluator.served_message _ _ _).error _ h

end Formatter

namespace Provider

/-- A pattern to be formatted for a locale. -/
structure Request where
  locale : String
  mode : Mode
  pattern : String
  graph : Graph
  value : Value

def serve (p : Provider) (r : Request) : Outcome String × Provider :=
  p.format r.locale r.mode r.pattern r.graph r.value

def after (p : Provider) (requests : List Request) : Provider :=
  requests.foldl (fun p r => (p.serve r).2) p

/-- Where the formatter for a locale stands. -/
def slot? (p : Provider) (locale : String) : Option Nat :=
  p.formatters.findIdx? fun e => e.1 == key locale

theorem key_eq_iff {a b : String} : key a = key b ↔ Alike a b := Locale.lowerString_hyphenated_eq_iff

theorem find?_eq_slot? (p : Provider) (locale : String) :
    p.find? locale = (p.slot? locale).bind fun i => p.formatters[i]?.map Prod.snd := by
  rw [find?, List.find?_eq_bind_findIdx?_getElem?, Option.map_bind]
  rfl

section Spellings

variable (backend : Locale.Backend) (options : Options)

/-- There can be a formatter for the locale as it is spelled. -/
def Builds (locale : String) : Prop :=
  (Formatter.build backend options (hyphenated locale)).isOk

instance : DecidablePred (Builds backend options) := fun _ => inferInstanceAs (Decidable (_ = true))

/-- The spellings that there can be formatters for, without those that an earlier one is alike. -/
def firsts : List String → List String
  | [] => []
  | locale :: asked =>
    if Builds backend options locale then
      locale :: (firsts asked).filter fun other => ¬ Alike locale other
    else firsts asked

/-- The first spelling of a locale that there can be a formatter for. -/
def known? (asked : List String) (locale : String) : Option String :=
  asked.find? fun other => Builds backend options other ∧ Alike other locale

/-- The spelling that a locale was first served under; its own if it was not served before. -/
def spelling (asked : List String) (locale : String) : String :=
  (known? backend options asked locale).getD locale

/-- What a formatter answers that is made for this request and caches nothing. -/
def answerAlone (spelling : String) (r : Request) : Outcome String :=
  match Formatter.build backend { options with enableCache := false } (hyphenated spelling) with
  | .ok f => (f.format none r.mode r.pattern r.graph r.value).1
  | .error e => Outcome.fail e

end Spellings

variable {backend : Locale.Backend} {options : Options} {asked : List String} {locale : String}

theorem known?_cons (first : String) (asked : List String) (locale : String) :
    known? backend options (first :: asked) locale =
      if Builds backend options first ∧ Alike first locale then some first
      else known? backend options asked locale := by
  rw [known?, List.find?_cons, known?]
  split <;> simp_all

theorem find?_firsts (asked : List String) (locale : String) :
    (firsts backend options asked).find? (fun other => Alike other locale) =
      known? backend options asked locale := by
  induction asked with
  | nil => rw [firsts, known?, List.find?_nil, List.find?_nil]
  | cons first asked ih =>
    rw [firsts, known?_cons]
    by_cases hbuilds : Builds backend options first
    · rw [if_pos hbuilds, List.find?_cons, List.find?_filter]
      by_cases halike : Alike first locale
      · simp [hbuilds, halike]
      · have hlater : ∀ other, (¬ Alike first other ∧ Alike other locale) ↔ Alike other locale :=
          fun other => and_iff_right_of_imp fun hother hfirst =>
            halike (key_eq_iff.mp ((key_eq_iff.mpr hfirst).trans (key_eq_iff.mpr hother)))
        simpa [hbuilds, halike, hlater] using ih
    · simpa [hbuilds] using ih

theorem firsts_concat (asked : List String) (locale : String) :
    firsts backend options (asked ++ [locale]) = firsts backend options asked ++
      if (known? backend options asked locale).isNone ∧ Builds backend options locale then [locale]
      else [] := by
  induction asked with
  | nil => simp [firsts, known?]
  | cons first asked ih =>
    have hlast (C : Prop) [Decidable C] :
        (if C then [locale] else []).filter (fun other => ¬ Alike first other) =
          if C ∧ ¬ Alike first locale then [locale] else [] := by
      by_cases halike : Alike first locale <;> split_ifs <;> simp_all
    rw [List.cons_append, firsts, firsts, ih, List.filter_append, hlast, known?_cons]
    by_cases hbuilds : Builds backend options first
    · by_cases halike : Alike first locale
      · simp [hbuilds, halike]
      · simp [hbuilds, halike]
    · simp [hbuilds]

/-- What a provider is after locales were asked for. -/
structure Serves (backend : Locale.Backend) (options : Options) (asked : List String) (p : Provider) :
    Prop where
  backend_eq : p.backend = backend
  options_eq : p.options = options
  formatters_eq : (p.formatters.map fun e => (e.1, Except.ok e.2)) =
    (firsts backend options asked).map fun other =>
      (key other, Formatter.build backend options (hyphenated other))
  holds : ∀ c ∈ p.cache, c.Holds (Formatter.reading options)

namespace Serves

variable {p : Provider}

theorem find?_eq (h : Serves backend options asked p) (locale : String) :
    (p.find? locale).map Except.ok =
      (known? backend options asked locale).map fun other =>
        Formatter.build backend options (hyphenated other) := by
  have hsame : (fun other => key other == key locale) = fun other => decide (Alike other locale) := by
    funext other
    rw [Bool.eq_iff_iff, beq_iff_eq, decide_eq_true_iff, key_eq_iff]
  have hfound := congrArg (fun l => (l.find? fun e => e.1 == key locale).map Prod.snd) h.formatters_eq
  simp only [List.find?_map, Option.map_map, Function.comp_def, hsame, find?_firsts] at hfound
  simpa only [find?, Option.map_map, Function.comp_def] using hfound

theorem formatter (h : Serves backend options asked p) (locale : String) :
    (p.formatter locale).1 =
        Formatter.build backend options (hyphenated (spelling backend options asked locale)) ∧
      Serves backend options (asked ++ [locale]) (p.formatter locale).2 := by
  have hfind := h.find?_eq locale
  have hspelling : spelling backend options asked locale =
      (known? backend options asked locale).getD locale := rfl
  have hfirsts : firsts backend options (asked ++ [locale]) = _ := firsts_concat asked locale
  cases hf : p.find? locale with
  | some f =>
    rw [hf, Option.map_some] at hfind
    obtain ⟨other, hother, hbuild⟩ := Option.map_eq_some_iff.mp hfind.symm
    rw [hother, Option.isNone_some] at hfirsts
    have hstep : p.formatter locale = (.ok f, p) := by rw [Provider.formatter, hf]
    rw [hspelling, hother, Option.getD_some, hbuild, hstep]
    refine ⟨rfl, h.backend_eq, h.options_eq, ?_, h.holds⟩
    rw [h.formatters_eq, hfirsts]
    simp
  | none =>
    rw [hf, Option.map_none] at hfind
    have hnone := Option.map_eq_none_iff.mp hfind.symm
    rw [hnone, Option.isNone_none] at hfirsts
    rw [hspelling, hnone, Option.getD_none]
    cases hbuild : Formatter.build backend options (hyphenated locale) with
    | error e =>
      have hstep : p.formatter locale = (.error e, p) := by
        simp only [Provider.formatter, hf, h.backend_eq, h.options_eq, hbuild]
      have hrefused : ¬ Builds backend options locale := by
        rw [Builds, hbuild]
        exact Bool.false_ne_true
      rw [hstep]
      refine ⟨rfl, h.backend_eq, h.options_eq, ?_, h.holds⟩
      rw [h.formatters_eq, hfirsts]
      simp [hrefused]
    | ok f =>
      have hstep : p.formatter locale =
          (.ok f, { p with formatters := p.formatters ++ [(key locale, f)] }) := by
        simp only [Provider.formatter, hf, h.backend_eq, h.options_eq, hbuild]
      have hbuilds : Builds backend options locale := by
        rw [Builds, hbuild]
        rfl
      rw [hstep]
      refine ⟨rfl, h.backend_eq, h.options_eq, ?_, h.holds⟩
      rw [List.map_append, h.formatters_eq, hfirsts]
      simp [hbuilds, hbuild]

/-- An answer is the one that a formatter gives which is made for it. -/
theorem serve (h : Serves backend options asked p) (r : Request) :
    (p.serve r).1 = answerAlone backend options (spelling backend options asked r.locale) r ∧
      Serves backend options (asked ++ [r.locale]) (p.serve r).2 := by
  obtain ⟨hbuild, hnext⟩ := h.formatter r.locale
  unfold Provider.serve Provider.format answerAlone
  rw [Formatter.build_uncached, ← hbuild]
  rcases hp : p.formatter r.locale with ⟨e | f, p'⟩ <;> rw [hp] at hbuild hnext
  · exact ⟨rfl, hnext⟩
  · obtain ⟨hoptions, -⟩ := Formatter.of_build hbuild.symm
    obtain ⟨htext, hafter⟩ :=
      Formatter.format_of_holds (hoptions.symm ▸ hnext.holds) r.mode r.pattern r.graph r.value
    refine ⟨?_, hnext.backend_eq, hnext.options_eq, hnext.formatters_eq, hoptions ▸ hafter⟩
    rw [← hoptions]
    exact htext

theorem after (h : Serves backend options asked p) (requests : List Request) :
    Serves backend options (asked ++ requests.map Request.locale) (p.after requests) := by
  induction requests generalizing p asked with
  | nil =>
    rw [List.map_nil, List.append_nil]
    exact h
  | cons r requests ih =>
    rw [List.map_cons, List.append_cons]
    exact ih (h.serve r).2

theorem built (h : Serves backend options asked p) :
    List.Forall₂ (fun e other => Formatter.build backend options (hyphenated other) = .ok e.2)
      p.formatters (firsts backend options asked) := by
  have hsame := h.formatters_eq
  rw [← List.forall₂_eq_eq_eq, List.forall₂_map_left_iff, List.forall₂_map_right_iff] at hsame
  exact hsame.imp fun _ _ heq => (Prod.mk.inj heq).2.symm

theorem locales_eq (h : Serves backend options asked p) :
    p.locales = (firsts backend options asked).map hyphenated := by
  rw [locales, ← List.forall₂_eq_eq_eq, List.forall₂_map_left_iff, List.forall₂_map_right_iff]
  refine h.built.imp fun e other hbuild => ?_
  rw [Formatter.locale, (Formatter.of_build hbuild).2]
  rfl

theorem context_eq (h : Serves backend options asked p) {e : String × Formatter}
    (he : e ∈ p.formatters) :
    e.2.context = .build backend e.2.locale options.fallbackLocale := by
  have hmem : (e.1, (.ok e.2 : Except Error Formatter)) ∈ p.formatters.map fun e => (e.1, .ok e.2) :=
    List.mem_map_of_mem he
  rw [h.formatters_eq] at hmem
  obtain ⟨other, -, hother⟩ := List.mem_map.mp hmem
  rw [Formatter.locale, (Formatter.of_build (Prod.mk.inj hother).2).2]
  rfl

theorem contains_iff (h : Serves backend options asked p) (locale : String) :
    p.contains locale ↔ ∃ other ∈ asked, Builds backend options other ∧ Alike other locale := by
  have hfind := congrArg Option.isSome (h.find?_eq locale)
  rw [Option.isSome_map, Option.isSome_map] at hfind
  rw [Provider.contains, hfind, known?, List.find?_isSome]
  simp only [decide_eq_true_iff]

end Serves

theorem serves_build (backend : Locale.Backend) (hoptions : options.check = .ok options) :
    ∃ p, build backend options = .ok p ∧ Serves backend options [] p := by
  have hroom : ¬ options.cacheSize ≤ 0 := by
    intro hle
    unfold Options.check at hoptions
    simp only [hle, if_true] at hoptions
    split_ifs at hoptions
  have hcache : Cache.ofCapacity options.cacheSize = .ok { capacity := options.cacheSize } := if_neg hroom
  have hbuild : build backend options =
      .ok ⟨backend, options, if options.enableCache then some ⟨options.cacheSize, [], 0, 0⟩ else none, []⟩ := by
    rw [build, hcache]
    rfl
  refine ⟨_, hbuild, rfl, rfl, rfl, fun c hc e he => ?_⟩
  rw [Option.mem_def, Option.ite_none_right_eq_some] at hc
  rw [← Option.some.inj hc.2] at he
  cases he

theorem slot?_eq_some_iff {p : Provider} {a b : String} {i : Nat} (h : p.slot? a = some i) :
    p.slot? b = some i ↔ Alike a b := by
  rw [← key_eq_iff]
  constructor
  · intro hb
    obtain ⟨_, hkey, -⟩ := List.findIdx?_eq_some_iff_getElem.mp h
    obtain ⟨_, hkey', -⟩ := List.findIdx?_eq_some_iff_getElem.mp hb
    exact (beq_iff_eq.mp hkey).symm.trans (beq_iff_eq.mp hkey')
  · intro hkey
    rw [slot?, ← hkey]
    exact h

theorem unchanged_of_unsupported {p : Provider} {r : Request} {requested : String}
    {available : List String}
    (h : (p.serve r).1.result = .error (.unsupportedLocale requested available)) :
    (p.serve r).2 = p := by
  unfold serve format at h ⊢
  rcases hp : p.formatter r.locale with ⟨e | f, p'⟩ <;> rw [hp] at h
  · unfold formatter at hp
    split at hp
    · cases hp
    · split at hp
      · cases hp
      · exact (Prod.mk.inj hp).2.symm
  · exact (Formatter.format_ne_unsupported _ _ _ _ _ _ _ _ h).elim

/-- Whatever a provider was asked before, it answers as a formatter does that caches nothing and is made for
this request: for the first spelling of the locale that there can be one for, with hyphens. A request that
fails for want of a locale leaves the provider as it is. Its locales are these spellings, in the order in
which they came. Two spellings lead to one formatter just if they are alike. What a formatter knows of its
locale is what is found out anew, whatever was looked up before. -/
theorem serve_eq_alone (backend : Locale.Backend) (options : Options)
    (hoptions : options.check = .ok options) :
    ∃ p, build backend options = .ok p ∧ ∀ (before : List Request) (asked : List String) (q : Provider),
      asked = before.map Request.locale → q = p.after before →
      (∀ r, (q.serve r).1 = answerAlone backend options (spelling backend options asked r.locale) r) ∧
      (∀ r requested available, (q.serve r).1.result = .error (.unsupportedLocale requested available) →
        (q.serve r).2 = q) ∧
      q.locales = (firsts backend options asked).map hyphenated ∧
      (∀ locale, q.contains locale ↔
        ∃ other ∈ asked, Builds backend options other ∧ Alike other locale) ∧
      (∀ locale, q.find? locale = (q.slot? locale).bind fun i => q.formatters[i]?.map Prod.snd) ∧
      (∀ a i, q.slot? a = some i → ∀ b, q.slot? b = some i ↔ Alike a b) ∧
      ∀ e ∈ q.formatters, ∀ kind queries, e.2.context.localeFor kind =
        (((Locale.Resolver.build backend e.2.locale options.fallbackLocale).after queries).resolve
          kind).result := by
  obtain ⟨p, hp, hserves⟩ := serves_build backend hoptions
  refine ⟨p, hp, ?_⟩
  rintro before asked q rfl rfl
  have hafter := hserves.after before
  rw [List.nil_append] at hafter
  refine ⟨fun r => (hafter.serve r).1, fun r requested available => unchanged_of_unsupported,
    hafter.locales_eq, hafter.contains_iff, find?_eq_slot? _, fun a i ha b => slot?_eq_some_iff ha,
    fun e he kind queries => ?_⟩
  rw [hafter.context_eq he]
  exact Locale.Context.localeFor_build _ _ _ _ _

/-- There is no data for `EN-us`, but there is a formatter for it once there is one for `en_US`. -/
theorem serve_eq_alone_english : ∃ (before : List Request) (r : Request) (p q : Provider),
    before.map Request.locale = ["EN", "en_US"] ∧ r.locale = " EN-us" ∧
    ¬ Builds Locale.onlyEnglish {} " EN-us" ∧
    build Locale.onlyEnglish {} = .ok p ∧ q = p.after before ∧ q.locales = ["en-US"] ∧
    (q.serve r).1 = answerAlone Locale.onlyEnglish {} "en_US" r := by
  let request (locale : String) : Request := ⟨locale, .message, "", {}, .text ""⟩
  obtain ⟨p, hp, hall⟩ := serve_eq_alone Locale.onlyEnglish {} rfl
  obtain ⟨hanswer, -, hlocales, -⟩ := hall [request "EN", request "en_US"] ["EN", "en_US"] _ rfl rfl
  have hknown := hanswer (request " EN-us")
  have hspelling : spelling Locale.onlyEnglish {} ["EN", "en_US"] (request " EN-us").locale = "en_US" := by
    decide +kernel
  rw [hspelling] at hknown
  refine ⟨_, request " EN-us", p, _, rfl, rfl, by decide +kernel, hp, rfl, hlocales.trans ?_, hknown⟩
  decide +kernel

end Provider
end MessageFormat
