import MessageFormat.Locale.Resolver
import MessageFormat.Proofs.Text.Trim

/-!
What a resolver answers, whatever it was asked before, and when the fallback helps. A fallback that is one of
the requested locale's own shortenings but for the case of its letters is not in the chain.
-/

set_option autoImplicit false

namespace MessageFormat.Locale

variable {backend : Backend} {requested fallback : String} {kind : DataKind}

/-- Not all of the identifier is blank. -/
def Named (locale : String) : Prop := ∃ c ∈ locale.toList, Text.isBlank c = false

theorem hyphenated_isEmpty {locale : String} (h : Named locale) :
    (hyphenated locale).isEmpty = false := by
  obtain ⟨c, hc, hblank⟩ := h
  have htrim : Text.trim locale.toList ≠ [] := fun h => by
    rw [Text.trim_eq_nil_iff.mp h c hc] at hblank
    cases hblank
  simpa [hyphenated, swapChar, String.isEmpty_iff] using htrim

/-- The fallback is left out of the chain, since one of the shortenings differs from it in case at most. -/
def Shadowed (requested fallback : String) : Prop :=
  ∃ locale ∈ shortenings (subtags requested), sameIgnoringCase (hyphenated fallback) locale = true

theorem chain_of_shadowed (h : Shadowed requested fallback) :
    chain requested fallback = shortenings (subtags requested) := by
  unfold chain
  rw [if_pos (by simpa [Shadowed] using .inr h)]

theorem chain_of_not_shadowed (hnamed : Named fallback) (h : ¬ Shadowed requested fallback) :
    chain requested fallback = shortenings (subtags requested) ++ [hyphenated fallback] := by
  unfold chain
  rw [if_neg]
  simpa [Shadowed, hyphenated_isEmpty hnamed] using h

/-- None of the locales has data of the kind. -/
def Lacks (backend : Backend) (locales : List String) (kind : DataKind) : Prop :=
  ∀ locale ∈ locales, backend.hasData locale kind = false

theorem firstWith_eq_none_iff {locales : List String} :
    backend.firstWith kind locales = none ↔ Lacks backend locales kind := by
  simp [Backend.firstWith, Lacks]

/-- The first identifier with the property. -/
def IsEarliest (p : String → Prop) (locales : List String) (locale : String) : Prop :=
  ∃ before after, locales = before ++ locale :: after ∧ p locale ∧ ∀ l ∈ before, ¬ p l

theorem firstWith_eq_some_iff {locales : List String} {locale : String} :
    backend.firstWith kind locales = some locale ↔
      IsEarliest (backend.hasData · kind = true) locales locale := by
  rw [Backend.firstWith, List.find?_eq_some_iff_append]
  constructor
  · rintro ⟨hdata, before, after, hlocales, hbefore⟩
    exact ⟨before, after, hlocales, hdata, by simpa using hbefore⟩
  · rintro ⟨before, after, hlocales, hdata, hbefore⟩
    exact ⟨hdata, before, after, hlocales, by simpa using hbefore⟩

/-- The chain lacks data that the fallback has just if the fallback is shadowed by shortenings that
lack it. -/
theorem lacks_chain_iff (hnamed : Named fallback)
    (hdata : backend.hasData (hyphenated fallback) kind = true) :
    Lacks backend (chain requested fallback) kind ↔
      Shadowed requested fallback ∧ Lacks backend (shortenings (subtags requested)) kind := by
  by_cases h : Shadowed requested fallback
  · simp [h, chain_of_shadowed h]
  · rw [chain_of_not_shadowed hnamed h]
    simp [h, Lacks, hdata]

theorem lacks_chain_all_iff (hnamed : Named fallback)
    (hdata : backend.hasData (hyphenated fallback) kind = true) :
    (∀ kind, Lacks backend (chain requested fallback) kind) ↔
      Shadowed requested fallback ∧ ∀ kind, Lacks backend (shortenings (subtags requested)) kind := by
  constructor
  · intro h
    have hshadowed := ((lacks_chain_iff hnamed hdata).mp (h kind)).1
    rw [chain_of_shadowed hshadowed] at h
    exact ⟨hshadowed, h⟩
  · intro ⟨hshadowed, h⟩
    rw [chain_of_shadowed hshadowed]
    exact h

namespace Resolver

/-- A resolver that was built for these and remembers nothing but what it would find. -/
structure Serves (backend : Backend) (requested fallback : String) (r : Resolver) : Prop where
  backend_eq : r.backend = backend
  requested_eq : r.requested = requested
  chain_eq : r.chain = Locale.chain requested fallback
  known : ∀ entry ∈ r.known,
    entry.2 = backend.firstWith entry.1 (Locale.chain requested fallback)

theorem serves_build (backend : Backend) (requested fallback : String) :
    Serves backend requested fallback (build backend requested fallback) :=
  ⟨rfl, rfl, by rw [build], fun _ h => absurd h List.not_mem_nil⟩

theorem resolveFirst_of_some {r : Resolver} {locale : String}
    (h : (r.resolve kind).result = some locale) (kinds : List DataKind) :
    r.resolveFirst (kind :: kinds) =
      ⟨.ok locale, (r.resolve kind).warnings, (r.resolve kind).resolver⟩ := by
  simp only [resolveFirst, h]

theorem resolveFirst_of_none {r : Resolver} (h : (r.resolve kind).result = none)
    (kinds : List DataKind) :
    r.resolveFirst (kind :: kinds) =
      { (r.resolve kind).resolver.resolveFirst kinds with
        warnings := (r.resolve kind).warnings ++
          ((r.resolve kind).resolver.resolveFirst kinds).warnings } := by
  simp only [resolveFirst, h]

namespace Serves

variable {r : Resolver} (h : Serves backend requested fallback r)
include h

theorem resolve (kind : DataKind) :
    (r.resolve kind).result = backend.firstWith kind (Locale.chain requested fallback) ∧
      Serves backend requested fallback (r.resolve kind).resolver := by
  unfold Resolver.resolve
  split
  · rename_i resolved hknown
    obtain ⟨⟨kind', _⟩, hfind, rfl⟩ := Option.map_eq_some_iff.mp hknown
    obtain rfl : kind' = kind := by simpa using List.find?_some hfind
    exact ⟨h.known _ (List.mem_of_find?_eq_some hfind), h⟩
  · have hfirst : r.backend.firstWith kind r.chain =
        backend.firstWith kind (Locale.chain requested fallback) := by
      rw [h.backend_eq, h.chain_eq]
    refine ⟨hfirst, h.backend_eq, h.requested_eq, h.chain_eq, fun entry hentry => ?_⟩
    rcases List.mem_append.mp hentry with hentry | hentry
    · exact h.known entry hentry
    · rw [List.mem_singleton.mp hentry]
      exact hfirst

theorem resolveFirst (kinds : List DataKind) :
    (r.resolveFirst kinds).result =
        (kinds.findSome? (backend.firstWith · (Locale.chain requested fallback))).elim
          (.error (.unsupportedLocale requested backend.available)) .ok ∧
      Serves backend requested fallback (r.resolveFirst kinds).resolver := by
  induction kinds generalizing r with
  | nil =>
    refine ⟨?_, h⟩
    simp [Resolver.resolveFirst, unsupported, h.backend_eq, h.requested_eq]
  | cons kind kinds ih =>
    obtain ⟨hresult, hserves⟩ := h.resolve kind
    rw [List.findSome?_cons, ← hresult]
    cases hone : (r.resolve kind).result with
    | some locale =>
      rw [resolveFirst_of_some hone]
      exact ⟨rfl, hserves⟩
    | none =>
      rw [resolveFirst_of_none hone]
      exact ih hserves

end Serves

/-- What a resolver is asked. -/
inductive Query where
  | kind (kind : DataKind)
  | any

/-- The resolver after it was asked. -/
def after (r : Resolver) : List Query → Resolver
  | [] => r
  | .kind kind :: queries => (r.resolve kind).resolver.after queries
  | .any :: queries => r.resolveAny.resolver.after queries

theorem Serves.after {r : Resolver} (h : Serves backend requested fallback r)
    (queries : List Query) : Serves backend requested fallback (r.after queries) := by
  induction queries generalizing r with
  | nil => exact h
  | cons query queries ih =>
    cases query with
    | kind kind => exact ih (h.resolve kind).2
    | any => exact ih (h.resolveFirst DataKind.all).2

/-- A resolver has no locale at all if the chain has data of no kind, and says so. -/
theorem Serves.resolveAny_error_iff {r : Resolver} (h : Serves backend requested fallback r)
    (e : Error) :
    r.resolveAny.result = .error e ↔ e = .unsupportedLocale requested backend.available ∧
      ∀ kind, Lacks backend (Locale.chain requested fallback) kind := by
  have hall : ∀ kind, kind ∈ DataKind.all := fun kind => by cases kind <;> decide
  rw [resolveAny, (h.resolveFirst DataKind.all).1]
  cases hfirst : DataKind.all.findSome? (backend.firstWith · (Locale.chain requested fallback)) with
  | some locale =>
    obtain ⟨kind, -, hkind⟩ := List.exists_of_findSome?_eq_some hfirst
    constructor
    · intro he
      cases he
    · intro hlacks
      rw [firstWith_eq_none_iff.mpr (hlacks.2 kind)] at hkind
      cases hkind
  | none =>
    have hlacks : ∀ kind, Lacks backend (Locale.chain requested fallback) kind := fun kind =>
      firstWith_eq_none_iff.mp (List.findSome?_eq_none_iff.mp hfirst kind (hall kind))
    simp [hlacks, eq_comm]

end Resolver

/-- With data for the fallback. Whatever a resolver was asked before, it finds no locale for the kind of
data just if the fallback is shadowed by shortenings of the requested locale that lack it, and it finds
no locale at all just if these lack data of every kind. -/
theorem fallback_fails_iff (backend : Backend) (requested fallback : String) (kind : DataKind)
    (hnamed : Named fallback) (hdata : backend.hasData (hyphenated fallback) kind = true)
    (queries : List Resolver.Query) :
    ((((Resolver.build backend requested fallback).after queries).resolve kind).result = none ↔
      Shadowed requested fallback ∧ Lacks backend (shortenings (subtags requested)) kind) ∧
    (∀ e, resolve backend requested fallback kind = .error e ↔
      e = .unsupportedLocale requested backend.available ∧
        Shadowed requested fallback ∧ Lacks backend (shortenings (subtags requested)) kind) ∧
    (∀ e, ((Resolver.build backend requested fallback).after queries).resolveAny.result =
        .error e ↔
      e = .unsupportedLocale requested backend.available ∧
        Shadowed requested fallback ∧
          ∀ kind, Lacks backend (shortenings (subtags requested)) kind) := by
  have hserves := (Resolver.serves_build backend requested fallback).after queries
  refine ⟨?_, fun e => ?_, fun e => ?_⟩
  · rw [(hserves.resolve kind).1, firstWith_eq_none_iff, lacks_chain_iff hnamed hdata]
  · rw [← lacks_chain_iff hnamed hdata, ← firstWith_eq_none_iff]
    unfold resolve
    split <;> simp [*, eq_comm]
  · rw [hserves.resolveAny_error_iff, lacks_chain_all_iff hnamed hdata]

/-- Data of all kinds for `en`, and for no other identifier. -/
def onlyEnglish : Backend where
  hasData locale _ := locale == "en"
  available := ["en"]
  answer _ _ := .error (.value "no data")

/-- A locale without data, after a look at all kinds of it. -/
theorem fallback_fails_iff_german : onlyEnglish.hasData "de" .plural = false ∧
    (((Resolver.build onlyEnglish "de" "en").after [.any]).resolve .plural).result ≠ none := by
  refine ⟨by decide, fun hnone => ?_⟩
  obtain ⟨⟨locale, hlocale, hsame⟩, -⟩ := (fallback_fails_iff onlyEnglish "de" "en" .plural
    ⟨'e', by decide, by decide⟩ (by decide) [.any]).1.mp hnone
  have hown : shortenings (subtags "de") = ["de"] := by decide +kernel
  rw [hown, List.mem_singleton] at hlocale
  subst hlocale
  exact absurd hsame (by decide +kernel)

/-- The fallback has data, but the chain has the requested locale in its place. -/
theorem fallback_shadowed_by_capitals :
    onlyEnglish.hasData (hyphenated "en") .plural = true ∧
    ((Resolver.build onlyEnglish "EN" "en").resolve .plural).result = none ∧
    resolve onlyEnglish "EN" "en" .plural = .error (.unsupportedLocale "EN" ["en"]) ∧
    (Resolver.build onlyEnglish "EN" "en").resolveAny.result =
      .error (.unsupportedLocale "EN" ["en"]) := by
  have hchain : chain "EN" "en" = ["EN"] := by decide +kernel
  have hlacks (kind : DataKind) : Lacks onlyEnglish (chain "EN" "en") kind := by
    rw [hchain]
    intro locale hlocale
    rw [List.mem_singleton.mp hlocale]
    rfl
  refine ⟨by decide, ?_, ?_, ?_⟩
  · rw [((Resolver.serves_build _ _ _).resolve .plural).1]
    exact firstWith_eq_none_iff.mpr (hlacks .plural)
  · rw [resolve, firstWith_eq_none_iff.mpr (hlacks .plural)]
    rfl
  · exact ((Resolver.serves_build _ _ _).resolveAny_error_iff _).mpr ⟨rfl, hlacks⟩

end MessageFormat.Locale
