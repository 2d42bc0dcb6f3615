import MessageFormat.Locale.Context
import MessageFormat.Proofs.Locale.Fallback

/-!
Which locale a request goes to: the first of the chain that has data of the kind that the request is about.
Two requests are about a second kind where no locale has data of their first one.
-/

set_option autoImplicit false

namespace MessageFormat

/-- What a number is looked up under: amounts of a currency need data of currencies, if there is any. -/
def Number.RenderOptions.kinds (options : RenderOptions) : List DataKind :=
  if options.currency.isSome then [.currency, .number] else [.number]

namespace Locale

/-- The kinds of data that a request is about: a later one counts where the chain lacks the earlier
ones. -/
def Request.kinds : Request → List DataKind
  | .pluralCategory _ ordinal => [if ordinal then .ordinal else .plural]
  | .numberingDigits | .numberSymbols => [.number]
  | .ordinalSuffix _ => [.ordinal]
  | .formatNumber _ options => options.kinds
  | .defaultCurrency => [.currency]
  | .formatUnit _ _ _ options => .unit :: options.kinds
  | .datePattern .. | .skeletonPattern _ | .formatMoment .. | .intervalFallback
  | .formatInterval .. => [.date]
  | .listPatterns .. => [.list]
  | .formatRelative .. => [.relativeTime]

namespace Context

variable {c : Context} {kind : DataKind} {request : Request} {locale : String}

/-- This locale is the first of the chain that has data of the kind. -/
def IsFirst (c : Context) (kind : DataKind) (locale : String) : Prop :=
  ∃ before after, c.chain = before ++ locale :: after ∧ Lacks c.backend before kind ∧
    c.backend.hasData locale kind = true

/-- The call is about a kind that the chain has data of, while it lacks those that come before, and it is
made for the first locale that has this data. -/
def Serves (c : Context) (call : Call) : Prop :=
  ∃ before kind after, call.request.kinds = before ++ kind :: after ∧
    (∀ k ∈ before, Lacks c.backend c.chain k) ∧ c.IsFirst kind call.locale

theorem localeFor_eq_none_iff : c.localeFor kind = none ↔ Lacks c.backend c.chain kind :=
  firstWith_eq_none_iff

theorem localeFor_eq_some_iff : c.localeFor kind = some locale ↔ c.IsFirst kind locale := by
  rw [localeFor, firstWith_eq_some_iff]
  simp only [IsEarliest, IsFirst, Lacks, Bool.not_eq_true, and_comm]

theorem serves_iff : c.Serves ⟨request, locale⟩ ↔
    request.kinds.findSome? c.localeFor = some locale := by
  simp only [Serves, List.findSome?_eq_some_iff, localeFor_eq_none_iff, localeFor_eq_some_iff]
  constructor
  · rintro ⟨before, kind, after, hkinds, hlacks, hfirst⟩
    exact ⟨before, kind, after, hkinds, hfirst, hlacks⟩
  · rintro ⟨before, kind, after, hkinds, hfirst, hlacks⟩
    exact ⟨before, kind, after, hkinds, hlacks, hfirst⟩

theorem serves_of_localeFor (h : c.localeFor kind = some locale) (hkinds : request.kinds = [kind]) :
    c.Serves ⟨request, locale⟩ := by
  rw [serves_iff, hkinds, List.findSome?_cons, h]

/-- No call is made for an identifier outside of the chain, or where the chain has no data. -/
theorem Serves.mem {call : Call} (h : c.Serves call) : call.locale ∈ c.chain ∧
    ∃ kind ∈ call.request.kinds, ¬ Lacks c.backend c.chain kind := by
  obtain ⟨before, kind, after, hkinds, -, first, last, hchain, -, hdata⟩ := h
  have hlocale : call.locale ∈ c.chain := by
    rw [hchain]
    exact List.mem_append_right first List.mem_cons_self
  refine ⟨hlocale, kind, ?_, fun hlacks => ?_⟩
  · rw [hkinds]
    exact List.mem_append_right before List.mem_cons_self
  · rw [hlacks _ hlocale] at hdata
    cases hdata

/-- A context looks nothing up that a resolver would answer otherwise, whatever that was asked before. -/
theorem localeFor_build (backend : Backend) (requested fallback : String) (kind : DataKind)
    (queries : List Resolver.Query) :
    (build backend requested fallback).localeFor kind =
      (((Resolver.build backend requested fallback).after queries).resolve kind).result := by
  rw [(((Resolver.serves_build backend requested fallback).after queries).resolve kind).1,
    localeFor, build]

end Context
end Locale
end MessageFormat
